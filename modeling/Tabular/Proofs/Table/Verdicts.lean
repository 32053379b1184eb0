import Tabular.Proofs.Number.Difference
import Tabular.Proofs.Table.Nulls

set_option autoImplicit false

namespace Tabular

/-- Numbers whose order and whose difference disagree about their equality. -/
inductive Value.Parted : Value → Value → Prop
  | number {x y : Number} (h : x.Parted y) : Value.Parted (.number x) (.number y)

namespace HierarchyCheck

variable {t : ScalarType} {o : HierarchyOptions} {value : String → Option Value}
  {rule : HierarchyRule}

theorem combine_minus_integer {i j : Int64} {d : Value}
    (h : combine .minus (.integer i) (.integer j) = .ok d) :
    Value.order (.integer i) (.integer j) = .eq ↔ d.isZero = true := by
  rw [combine] at h
  cases hc : Integer.check (exactSum .minus i.toInt j.toInt) with
  | none =>
    rw [hc] at h
    cases h
  | some k =>
    rw [hc] at h
    cases h
    have hk : k.toInt = i.toInt - j.toInt := Integer.toInt_of_check hc
    have hzero : (k == 0) = true ↔ k.toInt = 0 := beq_iff_eq.trans Int64.toInt_inj.symm
    change compare i.toInt j.toInt = .eq ↔ (k == 0) = true
    rw [hzero, Std.compare_eq_iff_eq]
    omega

theorem combine_minus_number {x y : Number} {d : Value}
    (h : combine .minus (.number x) (.number y) = .ok d) :
    (Value.order (.number x) (.number y) = .eq ↔ d.isZero = true) ↔
      ¬ Value.Parted (.number x) (.number y) := by
  cases h
  refine (Number.order_eq_iff_isZero_sub x y).trans (not_congr ⟨.number, fun h => ?_⟩)
  cases h with
  | number h => exact h

theorem combine_minus_zero (ht : t.isNumeric = true) {a b d : Value} (ha : a.conforms t = true)
    (hb : b.conforms t = true) (hn : ¬ (a.isNull = true ∨ b.isNull = true))
    (h : combine .minus a b = .ok d) :
    ((a.order b = .eq ↔ d.isZero = true) ↔ ¬ a.Parted b) ∧
      (t = .integer → (a.order b = .eq ↔ d.isZero = true)) := by
  rcases Value.conforms_iff.1 ha with rfl | ha
  · exact absurd (.inl rfl) hn
  · rcases Value.conforms_iff.1 hb with rfl | hb
    · exact absurd (.inr rfl) hn
    · cases t with
      | integer =>
        obtain ⟨i, rfl⟩ := Value.integer_of_type ha
        obtain ⟨j, rfl⟩ := Value.integer_of_type hb
        have hzero := combine_minus_integer h
        exact ⟨iff_of_true hzero nofun, fun _ => hzero⟩
      | number =>
        cases a <;> cases ha
        cases b <;> cases hb
        exact ⟨combine_minus_number h, nofun⟩
      | _ => cases ht

theorem sides_of_evaluateRule (ht : t.isNumeric = true)
    (hv : ∀ code v, value code = some v → v.conforms t = true) {r : HierarchyResult}
    (hr : evaluateRule o t value rule = .ok (some r)) :
    ∃ right, total (missingRight o t) (.zero t)
        (rule.rhs.map fun i => (i.sign, value i.code)) = .ok right ∧
      r.lhs.conforms t = true ∧ right.conforms t = true ∧
      combine .minus r.lhs right = .ok r.imbalance ∧
      r.holds = compareSides rule.op r.lhs right := by
  have hlhs := ((safe_evaluateRule ht o hv rule).of_ok hr r rfl).1
  by_cases he : emits o (value rule.lhs) (rule.rhs.map fun i => value i.code) = true
  · rw [evaluateRule_of_emits he] at hr
    obtain ⟨right, hright, hr⟩ := ok_of_bind hr
    obtain ⟨imbalance, himbalance, hr⟩ := ok_of_bind hr
    cases hr
    have hitems : ∀ p ∈ rule.rhs.map fun i => (i.sign, value i.code),
        ∀ v, p.2 = some v → v.conforms t = true := by
      intro p hp v hpv
      obtain ⟨i, _, rfl⟩ := List.mem_map.1 hp
      exact hv _ v hpv
    have hsum := safe_total ht (missingRight_conforms ht o) (zero_conforms ht) hitems
    exact ⟨right, hright, hlhs, hsum.of_ok hright, himbalance, rfl⟩
  · have hcodes : (rule.rhs.map fun i => (i.sign, value i.code)).map (·.2) =
        rule.rhs.map fun i => value i.code := List.map_map ..
    unfold evaluateRule at hr
    dsimp only at hr
    rw [hcodes, if_neg he] at hr
    cases hr

/-- An evaluated equation with an imbalance holds exactly if the imbalance is zero, unless its sides
    are parted. Integers never are. -/
theorem holds_iff_isZero (ht : t.isNumeric = true)
    (hv : ∀ code v, value code = some v → v.conforms t = true) (hop : rule.op = .compare .eq)
    {r : HierarchyResult} (hr : evaluateRule o t value rule = .ok (some r))
    (hn : r.imbalance.isNull = false) :
    ∃ right, total (missingRight o t) (.zero t)
        (rule.rhs.map fun i => (i.sign, value i.code)) = .ok right ∧
      ((r.holds = some true ↔ r.imbalance.isZero = true) ↔ ¬ Value.Parted r.lhs right) ∧
      (t = .integer → (r.holds = some true ↔ r.imbalance.isZero = true)) := by
  obtain ⟨right, hright, hl, hc, himbalance, hholds⟩ := sides_of_evaluateRule ht hv hr
  have hnull : ¬ (r.lhs.isNull = true ∨ right.isNull = true) := by
    intro h
    rw [combine_null h, Except.ok.injEq] at himbalance
    rw [← himbalance] at hn
    cases hn
  have hequal : r.holds = some true ↔ r.lhs.order right = .eq := by
    rw [hholds, hop, compareSides, if_neg (fun h => hnull (Bool.or_eq_true_iff.1 h)),
      Option.some_inj]
    exact beq_iff_eq
  rw [hequal]
  exact ⟨right, hright, combine_minus_zero ht hl hc hnull himbalance⟩

def sides (left right : Number) (code : String) : Option Value :=
  some (.number (if code = "T" then left else right))

theorem sides_conform (left right : Number) :
    ∀ code v, sides left right code = some v → v.conforms .number = true := by
  intro code v h
  cases h
  rfl

theorem holds_iff_isZero_signedZeros :
    ∃ right, total (missingRight strainedOptions .number) (.zero .number)
        ((strainedRule ["A"]).rhs.map fun i => (i.sign, sides (-0.0) 0.0 i.code)) = .ok right ∧
      Value.Parted (.number (-0.0)) right := by
  have hr : evaluateRule strainedOptions .number (sides (-0.0) 0.0) (strainedRule ["A"]) =
      .ok (some ⟨.number (-0.0), .number (-0.0), some false⟩) := rfl
  obtain ⟨right, hright, hparted, _⟩ := holds_iff_isZero rfl (sides_conform _ _) rfl hr rfl
  refine ⟨right, hright, by_contra fun h => ?_⟩
  exact absurd ((hparted.2 h).2 rfl) (by decide)

/-- Negative zero is not equal to zero though they differ by a zero, and infinity is equal to
    itself though its difference from itself is no number. -/
theorem verdict_against_imbalance :
    evaluateRule strainedOptions .number (sides (-0.0) 0.0) (strainedRule ["A"]) =
        .ok (some ⟨.number (-0.0), .number (-0.0), some false⟩) ∧
      Value.isZero (.number (-0.0)) = true ∧
      evaluateRule strainedOptions .number (sides .infinity .infinity) (strainedRule ["A"]) =
        .ok (some ⟨.number .infinity, .number (-.nan), some true⟩) ∧
      Value.isZero (.number (-.nan)) = false :=
  ⟨rfl, rfl, rfl, rfl⟩

end HierarchyCheck
end Tabular
