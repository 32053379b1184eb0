import Mathlib.Data.Int.ModEq
import Tabular.Operation.Call

set_option autoImplicit false

namespace Tabular.Operation

variable {a b r s : Int}

/-- `r` is the remainder of `a` by `b` that is zero or has the sign of `b`. -/
structure IsFloorRemainder (a b r : Int) : Prop where
  congruent : r ≡ a [ZMOD b]
  sign : r = 0 ∨ r.sign = b.sign
  small : r.natAbs < b.natAbs

theorem sign_eq_sign_iff (hr : r ≠ 0) (hb : b ≠ 0) : r.sign = b.sign ↔ (r < 0 ↔ b < 0) := by
  have hsign {n : Int} (hn : n ≠ 0) : n.sign = if n < 0 then -1 else 1 := by
    split
    · exact Int.sign_eq_neg_one_of_neg ‹_›
    · exact Int.sign_eq_one_of_pos (by omega)
  rw [hsign hr, hsign hb]
  split <;> split <;> omega

theorem IsFloorRemainder.unique (hr : IsFloorRemainder a b r) (hs : IsFloorRemainder a b s) :
    r = s := by
  have hrb := hr.small
  have hsb := hs.small
  have hb : b ≠ 0 := by omega
  have hside {n : Int} (h : IsFloorRemainder a b n) : n = 0 ∨ (n < 0 ↔ b < 0) :=
    or_iff_not_imp_left.2 fun hn => (sign_eq_sign_iff hn hb).1 (h.sign.resolve_left hn)
  -- Both lie between zero and the divisor, so their difference is smaller than it.
  have hsmall : (r - s).natAbs < b.natAbs := by
    have := hside hr
    have := hside hs
    omega
  have hdvd : b ∣ r - s := (hs.congruent.trans hr.congruent.symm).dvd
  exact Int.sub_eq_zero.1 (Int.eq_zero_of_dvd_of_natAbs_lt_natAbs hdvd hsmall)

theorem natAbs_tmod_lt (a : Int) (hb : b ≠ 0) : (a.tmod b).natAbs < b.natAbs := by
  rw [Int.natAbs_tmod]
  exact Nat.mod_lt _ (Int.natAbs_pos.2 hb)

theorem isFloorRemainder_floorRemainder (a : Int) (hb : b ≠ 0) :
    IsFloorRemainder a b (floorRemainder a b) := by
  have hsmall := natAbs_tmod_lt a hb
  have hcongruent : a.tmod b ≡ a [ZMOD b] := Int.modEq_iff_dvd.2 Int.dvd_self_sub_tmod
  unfold floorRemainder
  dsimp only
  split
  · rename_i hmove
    rw [ne_eq, ne_eq, decide_eq_decide] at hmove
    have hne : a.tmod b + b ≠ 0 := by omega
    refine ⟨?_, .inr ((sign_eq_sign_iff hne hb).2 (by omega)), by omega⟩
    exact (Int.modEq_iff_dvd.2 (by simp)).trans hcongruent
  · rename_i hkeep
    rw [not_and, not_ne_iff, decide_eq_decide] at hkeep
    refine ⟨hcongruent, or_iff_not_imp_left.2 fun hne => ?_, hsmall⟩
    exact (sign_eq_sign_iff hne hb).2 (hkeep hne)

theorem exists_int64 {n : Int} {b : Int64} (h : n.natAbs < b.toInt.natAbs) :
    ∃ i : Int64, i.toInt = n := by
  have hl := Int64.le_toInt b
  have hg := Int64.toInt_lt b
  refine ⟨Int64.ofInt n, Integer.toInt_ofInt ?_ ?_⟩
  · unfold Integer.least
    omega
  · unfold Integer.greatest
    omega

theorem toInt_ne_zero {b : Int64} (hb : b ≠ 0) : b.toInt ≠ 0 :=
  fun h => hb (Int64.toInt_inj.1 h)

theorem call_modulo (today : Date) (a b : Int64) :
    (modulo .integer).call today [.integer a, .integer b] =
      if b = 0 then .error .divisionByZero
      else if a = Int64.minValue ∧ b = -1 then .error (.overflow "mod")
      else .ok (.integer (Int64.ofInt (floorRemainder a.toInt b.toInt))) := by
  have hb : b.toInt = (0 : Int64).toInt ↔ b = 0 := Int64.toInt_inj
  have hleast : a.toInt = Int64.minValue.toInt ↔ a = Int64.minValue := Int64.toInt_inj
  have hminus : b.toInt = (-1 : Int64).toInt ↔ b = -1 := Int64.toInt_inj
  change (if b.toInt = (0 : Int64).toInt then _
    else if a.toInt = Int64.minValue.toInt ∧ b.toInt = (-1 : Int64).toInt then _ else _) = _
  simp only [hb, hleast, hminus]
  rfl

/-- By zero there is no remainder. By any other integer there is one remainder that is zero or has
    the sign of the divisor; the operation gives it, unless the operands are the least integer and
    minus one. Where the remainder of division toward zero has to be moved, the sum is in range. -/
theorem call_modulo_integers (today : Date) (a b : Int64) :
    (b = 0 → (modulo .integer).call today [.integer a, .integer b] = .error .divisionByZero) ∧
    (b ≠ 0 → ∃ r : Int64, IsFloorRemainder a.toInt b.toInt r.toInt ∧
      (∀ n, IsFloorRemainder a.toInt b.toInt n → n = r.toInt) ∧
      (modulo .integer).call today [.integer a, .integer b] =
        if a = Int64.minValue ∧ b = -1 then .error (.overflow "mod") else .ok (.integer r)) ∧
    (b ≠ 0 → a.toInt.tmod b.toInt ≠ 0 → (a.toInt.tmod b.toInt).sign ≠ b.toInt.sign →
      ∃ moved : Int64, moved.toInt = a.toInt.tmod b.toInt + b.toInt) := by
  refine ⟨fun hb => by rw [call_modulo, if_pos hb], fun hb => ?_, fun hb hne hsign => ?_⟩
  · have hr := isFloorRemainder_floorRemainder a.toInt (toInt_ne_zero hb)
    obtain ⟨r, hrange⟩ := exists_int64 hr.small
    rw [← hrange] at hr
    refine ⟨r, hr, fun n hn => hn.unique hr, ?_⟩
    rw [call_modulo, if_neg hb, ← hrange, Int64.ofInt_toInt]
  · have hb' := toInt_ne_zero hb
    rw [ne_eq, sign_eq_sign_iff hne hb'] at hsign
    have hsmall := natAbs_tmod_lt a.toInt hb'
    exact exists_int64 (show _ < b.toInt.natAbs by omega)

theorem call_modulo_integers_mixedSigns :
    (modulo .integer).call .epoch [.integer 5, .integer 0] = .error .divisionByZero ∧
    (modulo .integer).call .epoch [.integer Int64.minValue, .integer 7] = .ok (.integer 6) ∧
    ∃ moved : Int64, moved.toInt = Int64.minValue.toInt.tmod 7 + 7 := by
  have h := call_modulo_integers .epoch Int64.minValue 7
  have hsix : IsFloorRemainder Int64.minValue.toInt (7 : Int64).toInt 6 :=
    ⟨by decide, .inr rfl, by decide⟩
  obtain ⟨r, -, hunique, hcall⟩ := h.2.1 (by decide)
  have hr : r = 6 := Int64.toInt_inj.1 (hunique 6 hsix).symm
  refine ⟨(call_modulo_integers .epoch 5 0).1 rfl, ?_, h.2.2 (by decide) (by decide) (by decide)⟩
  rw [hcall, hr, if_neg (by decide)]

/-- The least integer by minus one: the remainder is zero, the operation on integers fails, and the
    one on the equal numbers gives zero. -/
theorem modulo_of_least :
    IsFloorRemainder Int64.minValue.toInt (-1 : Int64).toInt 0 ∧
    (modulo .integer).call .epoch [.integer Int64.minValue, .integer (-1)] =
      .error (.overflow "mod") ∧
    (modulo .number).call .epoch
      [.number (Number.ofInteger Int64.minValue), .number (Number.ofInteger (-1))] =
      .ok (.number 0.0) := by
  refine ⟨⟨by decide, .inl rfl, by decide⟩, by decide, ?_⟩
  decide +kernel

end Tabular.Operation
