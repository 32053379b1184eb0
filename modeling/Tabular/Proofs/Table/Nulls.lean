import Tabular.Proofs.Table.Hierarchy

set_option autoImplicit false

namespace Tabular

namespace HierarchyCheck

variable {t : ScalarType}

theorem combine_null {sign : Sign} {a b : Value} (h : a.isNull = true ∨ b.isNull = true) :
    combine sign a b = .ok .null := by
  rcases h with h | h
  · cases a <;> cases h
    cases b <;> rfl
  · cases b <;> cases h
    cases a <;> rfl

theorem total_from_null (missing : Value) (items : List (Sign × Option Value)) :
    total missing .null items = .ok .null := by
  induction items with
  | nil => rfl
  | cons p rest ih =>
    rw [total, combine_null (.inl rfl)]
    exact ih

theorem total_null {missing acc v : Value} {items : List (Sign × Option Value)}
    (hn : ∃ p ∈ items, (p.2.getD missing).isNull = true) (h : total missing acc items = .ok v) :
    v = .null := by
  induction items generalizing acc with
  | nil =>
    obtain ⟨p, hp, _⟩ := hn
    cases hp
  | cons p rest ih =>
    obtain ⟨next, hnext, h⟩ := ok_of_bind h
    obtain ⟨q, hq, hqn⟩ := hn
    rcases List.mem_cons.1 hq with rfl | hq
    · rw [combine_null (.inr hqn)] at hnext
      cases hnext
      rw [total_from_null] at h
      cases h
      rfl
    · exact ih ⟨q, hq, hqn⟩ h

theorem combine_number (sign : Sign) {a b : Value} (ha : a.conforms .number = true)
    (hb : b.conforms .number = true) :
    ∃ v, combine sign a b = .ok v ∧ v.conforms .number = true := by
  rcases Value.conforms_iff.1 ha with rfl | ha
  · exact ⟨.null, combine_null (.inl rfl), rfl⟩
  · rcases Value.conforms_iff.1 hb with rfl | hb
    · exact ⟨.null, combine_null (.inr rfl), rfl⟩
    · cases a <;> cases ha
      cases b <;> cases hb
      exact ⟨_, rfl, rfl⟩

/-- The exact sum of the first items, from `start` on, is no integer of 64 bits. Past an item that
    is null there is no sum. -/
def Exceeds (start : Amount) (items : List (Sign × Amount)) : Prop :=
  ∃ k n, plus start (signedSum (items.take k)) = some n ∧
    (n < Integer.least ∨ Integer.greatest < n)

theorem in_range (i : Int64) : ¬ (i.toInt < Integer.least ∨ Integer.greatest < i.toInt) := by
  rw [← Integer.check_eq_none, Integer.check_toInt]
  exact nofun

theorem not_exceeds_nil (i : Int64) : ¬ Exceeds (some i.toInt) [] := by
  rintro ⟨k, n, hn, hout⟩
  rw [List.take_nil, signedSum, plus_zero] at hn
  cases hn
  exact in_range i hout

theorem exceeds_cons (i : Int64) {a : Amount} {sign : Sign} {items : List (Sign × Amount)} :
    Exceeds (some i.toInt) ((sign, a) :: items) ↔
      Exceeds (plus (some i.toInt) (a.map (signed sign))) items := by
  constructor
  · rintro ⟨k, n, hn, hout⟩
    cases k with
    | zero =>
      rw [List.take_zero, signedSum, plus_zero] at hn
      cases hn
      exact absurd hout (in_range i)
    | succ k =>
      rw [List.take_succ_cons, signedSum, ← plus_assoc] at hn
      exact ⟨k, n, hn, hout⟩
  · rintro ⟨k, n, hn, hout⟩
    refine ⟨k + 1, n, ?_, hout⟩
    rw [List.take_succ_cons, signedSum, ← plus_assoc]
    exact hn

theorem not_exceeds_none (items : List (Sign × Amount)) : ¬ Exceeds none items := by
  rintro ⟨k, n, hn, _⟩
  cases hn

theorem not_exceeds_of_none {items : List (Sign × Amount)} (h : ∀ p ∈ items, p.2 = none) :
    ¬ Exceeds (some 0) items := by
  cases items with
  | nil => exact not_exceeds_nil 0
  | cons p rest =>
    obtain ⟨sign, a⟩ := p
    obtain rfl : a = none := h _ (List.mem_cons_self ..)
    exact fun hx => not_exceeds_none rest ((exceeds_cons 0).1 hx)

theorem amountOf_number {v : Value} (h : v.conforms .number = true) : amountOf v = none := by
  cases v <;> first | rfl | cases h

theorem exactSum_eq (sign : Sign) (m n : Int) : exactSum sign m n = m + signed sign n := by
  cases sign
  · rfl
  · exact Int.sub_eq_add_neg

theorem total_integer {missing : Value} (i : Int64) {items : List (Sign × Option Value)}
    (hi : ∀ p ∈ items, (p.2.getD missing).conforms .integer = true) :
    (Exceeds (some i.toInt) (items.map fun p => (p.1, amountOf (p.2.getD missing))) →
      total missing (.integer i) items = .error (.overflow "check_hierarchy")) ∧
    (¬ Exceeds (some i.toInt) (items.map fun p => (p.1, amountOf (p.2.getD missing))) →
      ∃ v, total missing (.integer i) items = .ok v) := by
  induction items generalizing i with
  | nil =>
    exact ⟨fun h => absurd h (not_exceeds_nil i), fun _ => ⟨_, rfl⟩⟩
  | cons p rest ih =>
    obtain ⟨sign, v⟩ := p
    obtain ⟨hv, hrest⟩ := List.forall_mem_cons.1 hi
    rw [List.map_cons, exceeds_cons, total]
    rcases Value.conforms_iff.1 hv with hnull | hint
    · dsimp only
      rw [hnull, combine_null (.inr rfl)]
      exact ⟨fun h => absurd h (not_exceeds_none _), fun _ => ⟨_, total_from_null missing rest⟩⟩
    · obtain ⟨j, hj⟩ := Value.integer_of_type hint
      dsimp only
      rw [hj]
      have hsum : plus (some i.toInt) ((amountOf (.integer j)).map (signed sign)) =
          some (exactSum sign i.toInt j.toInt) := by
        rw [exactSum_eq]
        rfl
      rw [hsum, combine]
      cases hc : Integer.check (exactSum sign i.toInt j.toInt) with
      | some k =>
        rw [← Integer.toInt_of_check hc]
        exact ih k hrest
      | none =>
        exact ⟨fun _ => rfl, fun h => absurd ⟨0, _, plus_zero _, Integer.check_eq_none.1 hc⟩ h⟩

theorem total_number {missing acc : Value} (ha : acc.conforms .number = true)
    {items : List (Sign × Option Value)}
    (hi : ∀ p ∈ items, (p.2.getD missing).conforms .number = true) :
    ∃ v, total missing acc items = .ok v := by
  induction items generalizing acc with
  | nil => exact ⟨acc, rfl⟩
  | cons p rest ih =>
    obtain ⟨hv, hrest⟩ := List.forall_mem_cons.1 hi
    obtain ⟨next, hn, hc⟩ := combine_number p.1 ha hv
    obtain ⟨v, h⟩ := ih hc hrest
    refine ⟨v, ?_⟩
    rw [total, hn]
    exact h

section
variable (o : HierarchyOptions) (t : ScalarType) (value : String → Option Value)
  (rule : HierarchyRule)

/-- What the left-hand code of a rule counts for. -/
def leftItem : Value := (value rule.lhs).getD (missingLeft o t)

def rightItems : List (Sign × Value) :=
  rule.rhs.map fun i => (i.sign, (value i.code).getD (missingRight o t))

/-- Adding up the right-hand items leaves the range of the integers before an item is null.
    Numbers have no such range. -/
def Overflows : Prop :=
  Exceeds (some 0) ((rightItems o t value rule).map fun p => (p.1, amountOf p.2))

end

section
variable {o : HierarchyOptions} {value : String → Option Value} {rule : HierarchyRule}

theorem evaluateRule_of_emits
    (he : emits o (value rule.lhs) (rule.rhs.map fun i => value i.code) = true) :
    evaluateRule o t value rule = (do
      let right ← total (missingRight o t) (.zero t) (rule.rhs.map fun i => (i.sign, value i.code))
      let imbalance ← combine .minus (leftItem o t value rule) right
      return some ⟨leftItem o t value rule, imbalance,
        compareSides rule.op (leftItem o t value rule) right⟩) := by
  have hcodes : (rule.rhs.map fun i => (i.sign, value i.code)).map (·.2) =
      rule.rhs.map fun i => value i.code := List.map_map ..
  unfold evaluateRule
  dsimp only
  rw [hcodes, he]
  rfl

theorem items_conform (ht : t.isNumeric = true)
    (hv : ∀ code v, value code = some v → v.conforms t = true) :
    ∀ p ∈ rule.rhs.map fun i => (i.sign, value i.code),
      (p.2.getD (missingRight o t)).conforms t = true := by
  intro p hp
  obtain ⟨i, _, rfl⟩ := List.mem_map.1 hp
  cases hc : value i.code with
  | none => exact missingRight_conforms ht o
  | some v => exact hv _ v hc

theorem not_overflows_number (hv : ∀ code v, value code = some v → v.conforms .number = true) :
    ¬ Overflows o .number value rule := by
  refine not_exceeds_of_none fun p hp => ?_
  obtain ⟨q, hq, rfl⟩ := List.mem_map.1 hp
  obtain ⟨i, hi, rfl⟩ := List.mem_map.1 hq
  exact amountOf_number (items_conform rfl hv _ (List.mem_map_of_mem hi))

theorem total_rightItems (ht : t.isNumeric = true)
    (hv : ∀ code v, value code = some v → v.conforms t = true) :
    (Overflows o t value rule → total (missingRight o t) (.zero t)
        (rule.rhs.map fun i => (i.sign, value i.code)) = .error (.overflow "check_hierarchy")) ∧
    (¬ Overflows o t value rule → ∃ v, total (missingRight o t) (.zero t)
        (rule.rhs.map fun i => (i.sign, value i.code)) = .ok v) := by
  have hitems : ∀ p ∈ rule.rhs.map fun i => (i.sign, value i.code),
      (p.2.getD (missingRight o t)).conforms t = true := items_conform ht hv
  cases t with
  | integer =>
    have hsum := total_integer 0 hitems
    rw [List.map_map] at hsum
    unfold Overflows rightItems
    rw [List.map_map]
    exact hsum
  | number => exact ⟨fun h => absurd h (not_overflows_number hv), fun _ => total_number rfl hitems⟩
  | _ => cases ht

/-- A rule that the mode evaluates and that has a null item gets neither an imbalance nor a result,
    unless the sum of its right-hand items overflows; then there is no outcome. Sums of numbers do
    not overflow. -/
theorem evaluateRule_of_null (ht : t.isNumeric = true)
    (hv : ∀ code v, value code = some v → v.conforms t = true)
    (he : emits o (value rule.lhs) (rule.rhs.map fun i => value i.code) = true)
    (hn : (leftItem o t value rule).isNull = true ∨
      ∃ p ∈ rightItems o t value rule, p.2.isNull = true) :
    (¬ Overflows o t value rule →
      evaluateRule o t value rule = .ok (some ⟨leftItem o t value rule, .null, none⟩)) ∧
    (Overflows o t value rule →
      evaluateRule o t value rule = .error (.overflow "check_hierarchy")) ∧
    (t = .number → ¬ Overflows o t value rule) := by
  obtain ⟨hfails, hsucceeds⟩ := total_rightItems ht hv
  rw [evaluateRule_of_emits he]
  refine ⟨?_, ?_, ?_⟩
  · intro hr
    obtain ⟨right, hright⟩ := hsucceeds hr
    have hnull : (leftItem o t value rule).isNull = true ∨ right.isNull = true := by
      refine hn.imp_right fun ⟨p, hp, hpn⟩ => ?_
      obtain ⟨i, hi, rfl⟩ := List.mem_map.1 hp
      rw [total_null ⟨_, List.mem_map_of_mem hi, hpn⟩ hright]
      rfl
    rw [hright]
    change (combine .minus (leftItem o t value rule) right >>= _) = _
    rw [combine_null hnull, compareSides, if_pos (Bool.or_eq_true_iff.2 hnull)]
    rfl
  · intro hr
    rw [hfails hr]
    rfl
  · rintro rfl
    exact not_overflows_number hv

end

def strained (code : String) : Option Value :=
  if code = "N" then some .null
  else if code = "A" then some (.integer Int64.maxValue)
  else some (.integer 1)

def strainedRule (codes : List String) : HierarchyRule :=
  ⟨"r1", "T", .compare .eq, codes.map (⟨.plus, ·⟩), none, none⟩

def strainedOptions : HierarchyOptions := ⟨.alwaysNull, .all, .skipIncomplete, false⟩

theorem evaluateRule_of_null_strained :
    evaluateRule strainedOptions .integer strained (strainedRule ["N", "A", "B"]) =
        .ok (some ⟨.integer 1, .null, none⟩) ∧
      evaluateRule strainedOptions .integer strained (strainedRule ["A", "B", "N"]) =
        .error (.overflow "check_hierarchy") := by
  have hv : ∀ code v, strained code = some v → v.conforms .integer = true := by
    intro code v h
    unfold strained at h
    split at h
    · cases h
      rfl
    · split at h <;> cases h <;> rfl
  have hnull : (Sign.plus, Value.null).2.isNull = true := rfl
  constructor
  · refine (evaluateRule_of_null rfl hv rfl (.inr ⟨_, List.mem_cons_self .., hnull⟩)).1 fun h => ?_
    exact not_exceeds_none _ ((exceeds_cons 0).1 h)
  · refine (evaluateRule_of_null rfl hv rfl (.inr ⟨_, List.mem_of_getElem? (i := 2) rfl,
      hnull⟩)).2.1 ⟨2, 9223372036854775808, by decide, ?_⟩
    exact .inr (by decide)

/-- All items are there and one of them is null, and yet the sum overflows before it gets there. -/
theorem overflow_beside_null :
    emits strainedOptions (strained "T") [strained "A", strained "B", strained "N"] = true ∧
      [strained "T", strained "A", strained "B", strained "N"] = [some (.integer 1),
        some (.integer Int64.maxValue), some (.integer 1), some .null] ∧
      evaluateRule strainedOptions .integer strained (strainedRule ["A", "B", "N"]) =
        .error (.overflow "check_hierarchy") :=
  ⟨rfl, rfl, rfl⟩

end HierarchyCheck
end Tabular
