import Tabular.Operation.Call
import Tabular.Proofs.Number.Nearest

set_option autoImplicit false

namespace Tabular.Number

/-- Such integers, and up to the exponent no others, are the values of numbers. -/
def Representable (n : Nat) : Prop := ∃ m k, m < 2 ^ 53 ∧ n = m * 2 ^ k

def rounded (n : Nat) : Nat := halfEven n (n.log2 - 52) * 2 ^ (n.log2 - 52)

theorem rounded_of_log2_le {n : Nat} (h : n.log2 ≤ 52) : rounded n = n := by
  rw [rounded, Nat.sub_eq_zero_of_le h, halfEven_zero, Nat.pow_zero, Nat.mul_one]

theorem representable_rounded (n : Nat) : Representable (rounded n) := by
  rcases Nat.le_total n.log2 52 with hsmall | hlarge
  · rw [rounded_of_log2_le hsmall]
    have hlt : n < 2 ^ (n.log2 + 1) := Nat.lt_log2_self
    have hle : 2 ^ (n.log2 + 1) ≤ 2 ^ 53 := Nat.pow_le_pow_right (by decide) (by omega)
    exact ⟨n, 0, by omega, by rw [Nat.pow_zero, Nat.mul_one]⟩
  · have hwidth := halfEven_width hlarge
    rcases Nat.lt_or_eq_of_le hwidth.2 with hlt | heq
    · exact ⟨_, _, hlt, rfl⟩
    · -- Rounded up to a power of two: one bit and one more zero.
      refine ⟨2 ^ 52, n.log2 - 52 + 1, by decide, ?_⟩
      rw [rounded, heq, Nat.pow_succ, Nat.pow_succ]
      ring

theorem rounded_nearest (n : Nat) {s : Nat} (hs : Representable s) :
    ((n : Int) - rounded n).natAbs ≤ ((n : Int) - s).natAbs := by
  obtain ⟨m, j, hm, rfl⟩ := hs
  rcases Nat.lt_or_ge j (n.log2 - 52) with hlt | hge
  · -- Below the leading bit of `n`, so the multiple below `n` is at least as near.
    have hne : n ≠ 0 := fun h => by simp [h] at hlt
    have hbelow : m * 2 ^ j ≤ 2 ^ 52 * 2 ^ (n.log2 - 52) := by
      have hpow : 2 ^ (j + 1) ≤ 2 ^ (n.log2 - 52) := Nat.pow_le_pow_right (by decide) hlt
      have hmul : m * 2 ^ j ≤ 2 ^ 53 * 2 ^ j := Nat.mul_le_mul_right _ (Nat.le_of_lt hm)
      rw [Nat.pow_succ] at hpow
      omega
    have hlead : 2 ^ 52 * 2 ^ (n.log2 - 52) ≤ n := by
      have hlow := Nat.log2_self_le hne
      rwa [← Nat.pow_add, Nat.add_sub_of_le (by omega)]
    have hnear := halfEven_nearest n (n.log2 - 52) (2 ^ 52)
    unfold rounded
    omega
  · have hmultiple : m * 2 ^ j = m * 2 ^ (j - (n.log2 - 52)) * 2 ^ (n.log2 - 52) := by
      rw [Nat.mul_assoc, ← Nat.pow_add, Nat.sub_add_cancel hge]
    rw [hmultiple]
    exact halfEven_nearest n _ _

theorem rounded_eq_iff (n : Nat) : rounded n = n ↔ Representable n := by
  refine ⟨fun h => h ▸ representable_rounded n, fun h => ?_⟩
  have hnear := rounded_nearest n h
  omega

theorem rounded_le {n : Nat} (h : n ≤ 2 ^ 63) : rounded n ≤ 2 ^ 63 := by
  by_contra hgt
  have hnear := rounded_nearest n ⟨1, 63, by decide, rfl⟩
  omega

/-- The mantissa of a positive number that is nearest to an integer, with its leading bit. It has
    one bit too many if it is rounded up to a power of two. -/
theorem mantissa_cases (n : Nat) :
    n.log2 < 52 ∧ halfEven (n * 2 ^ 52) n.log2 = n * 2 ^ (52 - n.log2) ∧
        n * 2 ^ (52 - n.log2) < 2 ^ 53 ∨
      52 ≤ n.log2 ∧ halfEven (n * 2 ^ 52) n.log2 = halfEven n (n.log2 - 52) := by
  rcases Nat.lt_or_ge n.log2 52 with hlt | hge
  · have hsplit (k : Nat) : k * 2 ^ 52 = k * 2 ^ (52 - n.log2) * 2 ^ n.log2 := by
      rw [Nat.mul_assoc, ← Nat.pow_add, Nat.sub_add_cancel (Nat.le_of_lt hlt)]
    refine .inl ⟨hlt, by rw [hsplit n, halfEven_exact], ?_⟩
    have hhigh := Nat.mul_lt_mul_of_pos_right (@Nat.lt_log2_self n) (Nat.two_pow_pos (52 - n.log2))
    rwa [← Nat.pow_add, show n.log2 + 1 + (52 - n.log2) = 53 by omega] at hhigh
  · have h := halfEven_scale n (n.log2 - 52) 52
    rw [Nat.sub_add_cancel hge] at h
    exact .inr ⟨hge, h⟩

theorem magnitude_cases {n : Nat} (hn : 0 < n) {q : Int}
    (hq : ((magnitude n / 2 ^ 52 : Nat) : Int) - 1075 = q) :
    0 ≤ q ∧ (2 ^ 52 + magnitude n % 2 ^ 52) * 2 ^ q.toNat = rounded n ∨
      q < 0 ∧ 2 ^ 52 + magnitude n % 2 ^ 52 = n * 2 ^ (-q).toNat ∧ rounded n = n := by
  have hbounds := magnitude_bounds hn
  have hsum := magnitude_of_pos hn
  rcases mantissa_cases n with ⟨hlog, hexact, hsmall⟩ | ⟨hlog, hround⟩
  · have hm : 2 ^ 52 + magnitude n % 2 ^ 52 = n * 2 ^ (52 - n.log2) := by omega
    have hshift : (-q).toNat = 52 - n.log2 := by omega
    exact .inr ⟨by omega, by rw [hm, hshift], rounded_of_log2_le (Nat.le_of_lt hlog)⟩
  · have hwidth := halfEven_width hlog
    rw [hround] at hsum
    refine .inl ⟨by omega, ?_⟩
    rcases Nat.lt_or_eq_of_le hwidth.2 with hfit | hcarry
    · have hm : 2 ^ 52 + magnitude n % 2 ^ 52 = halfEven n (n.log2 - 52) := by omega
      have hshift : q.toNat = n.log2 - 52 := by omega
      rw [hm, hshift, rounded]
    · have hm : 2 ^ 52 + magnitude n % 2 ^ 52 = 2 ^ 52 := by omega
      have hshift : q.toNat = n.log2 - 52 + 1 := by omega
      rw [hm, hshift, rounded, hcarry, Nat.pow_succ, Nat.pow_succ]
      ring

theorem form_eq_of_magnitude (i : Int64) :
    form (ofInteger i) =
      if magnitude i.toInt.natAbs / 2 ^ 52 = 0 then
        .finite (decide (i.toInt < 0)) (magnitude i.toInt.natAbs % 2 ^ 52) (-1074)
      else .finite (decide (i.toInt < 0)) (2 ^ 52 + magnitude i.toInt.natAbs % 2 ^ 52)
        (((magnitude i.toInt.natAbs / 2 ^ 52 : Nat) : Int) - 1075) := by
  have hbits := toNat_ofInteger i
  have hlt := magnitude_natAbs_lt i
  have hnegative : decide (pow2 63 ≤ (ofInteger i).bits.toNat) = decide (i.toInt < 0) := by
    rw [decide_eq_decide, hbits]
    change 2 ^ 63 ≤ _ ↔ _
    split <;> omega
  have hscale : (ofInteger i).bits.toNat / pow2 52 % pow2 11 =
      magnitude i.toInt.natAbs / 2 ^ 52 := by
    rw [hbits]
    change _ / 2 ^ 52 % 2 ^ 11 = _
    split <;> omega
  have hfraction : (ofInteger i).bits.toNat % pow2 52 = magnitude i.toInt.natAbs % 2 ^ 52 := by
    rw [hbits]
    change _ % 2 ^ 52 = _
    split <;> omega
  unfold form
  dsimp only
  rw [hnegative, hscale, hfraction, if_neg (by omega)]
  rfl

theorem form_ofInteger (i : Int64) : ∃ m q,
    form (ofInteger i) = .finite (decide (i.toInt < 0)) m q ∧
      (0 ≤ q ∧ m * 2 ^ q.toNat = rounded i.toInt.natAbs ∨
        q < 0 ∧ m = i.toInt.natAbs * 2 ^ (-q).toNat ∧
          rounded i.toInt.natAbs = i.toInt.natAbs) := by
  rw [form_eq_of_magnitude]
  generalize i.toInt.natAbs = n
  rcases Nat.eq_zero_or_pos n with rfl | hn
  · exact ⟨0, -1074, rfl, .inr ⟨by decide, (Nat.zero_mul _).symm, rounded_of_log2_le (by simp)⟩⟩
  · have hbounds := magnitude_bounds hn
    rw [if_neg (by omega)]
    exact ⟨_, _, rfl, magnitude_cases hn rfl⟩

theorem signed_natAbs (i : Int64) :
    signed (decide (i.toInt < 0)) i.toInt.natAbs = ofInteger i := by
  have hbits := toNat_ofInteger i
  have hlt := magnitude_natAbs_lt i
  have hmagnitude : (ofNat i.toInt.natAbs).bits.toNat = magnitude i.toInt.natAbs :=
    toNat_ofNat (by have := Int64.le_toInt i; have := Int64.toInt_lt i; omega)
  have heq {x : Number} (h : x.bits.toNat = (ofInteger i).bits.toNat) : x = ofInteger i := by
    cases x
    exact congrArg Number.mk (UInt64.toNat_inj.1 h)
  unfold signed
  by_cases hneg : i.toInt < 0
  · rw [decide_eq_true hneg, if_pos rfl]
    refine heq ?_
    change ((ofNat i.toInt.natAbs).bits ^^^ signBit).toNat = _
    rw [UInt64.toNat_xor, hmagnitude, hbits, if_pos hneg, Nat.add_comm]
    exact xor_signBit (by omega)
  · rw [decide_eq_false hneg, if_neg Bool.false_ne_true]
    refine heq ?_
    rw [hmagnitude, hbits, if_neg hneg, Nat.zero_add]

theorem Direction.magnitude_whole (d : Direction) (negative : Bool) (n k : Nat) :
    d.magnitude negative (n * 2 ^ k) k = n := by
  have hdiv : n * 2 ^ k / pow2 k = n := Nat.mul_div_cancel n (Nat.two_pow_pos k)
  have hmod : n * 2 ^ k % pow2 k = 0 := Nat.mul_mod_left n (2 ^ k)
  have hhalf : (2 * (n * 2 ^ k) + pow2 k) / pow2 (k + 1) = n := by
    change (2 * (n * 2 ^ k) + 2 ^ k) / 2 ^ (k + 1) = n
    have hpos := Nat.two_pow_pos k
    rw [Nat.div_eq_iff (Nat.two_pow_pos _), Nat.pow_succ]
    have hsplit : n * (2 ^ k * 2) = 2 * (n * 2 ^ k) := by ring
    omega
  cases d <;> simp [magnitude, hdiv, hmod, hhalf]

theorem roundTo_ofInteger (d : Direction) (i : Int64) : roundTo d (ofInteger i) = ofInteger i := by
  obtain ⟨m, q, hform, ⟨hq, -⟩ | ⟨hq, rfl, -⟩⟩ := form_ofInteger i
  · rw [roundTo, hform]
    exact if_pos hq
  · rw [roundTo, hform]
    dsimp only
    rw [if_neg (Int.not_le.2 hq), d.magnitude_whole, signed_natAbs]

def nearestWhole (n : Int) : Int := if n < 0 then -(rounded n.natAbs : Int) else rounded n.natAbs

theorem natAbs_nearestWhole (n : Int) : (nearestWhole n).natAbs = rounded n.natAbs := by
  unfold nearestWhole
  split <;> omega

theorem nearestWhole_nearest (n : Int) {m : Int} (hm : Representable m.natAbs) :
    (n - nearestWhole n).natAbs ≤ (n - m).natAbs := by
  have hnear := rounded_nearest n.natAbs hm
  unfold nearestWhole
  split <;> omega

theorem integerPart?_ofInteger (i : Int64) :
    integerPart? (ofInteger i) = some (nearestWhole i.toInt) := by
  obtain ⟨m, q, hform, hcases⟩ := form_ofInteger i
  have hsize : (if 0 ≤ q then m * pow2 q.toNat else m / pow2 (-q).toNat) =
      rounded i.toInt.natAbs := by
    rcases hcases with ⟨hq, hm⟩ | ⟨hq, rfl, hexact⟩
    · rw [if_pos hq]
      exact hm
    · rw [if_neg (Int.not_le.2 hq), hexact]
      exact Nat.mul_div_cancel _ (Nat.two_pow_pos _)
  rw [integerPart?, hform]
  simp only [hsize, decide_eq_true_eq, nearestWhole]

/-- Brought back into range it is the integer itself, if that has the form of a number or is the
    greatest one. -/
theorem clamp_nearestWhole_eq_iff (i : Int64) :
    Integer.clamp (nearestWhole i.toInt) = i ↔
      Representable i.toInt.natAbs ∨ i = Int64.maxValue := by
  have hl := Int64.le_toInt i
  have hg := Int64.toInt_lt i
  have hle := rounded_le (n := i.toInt.natAbs) (by omega)
  have hmax : i = Int64.maxValue ↔ i.toInt = 2 ^ 63 - 1 :=
    (Int64.toInt_inj (y := Int64.maxValue)).symm
  have hover : i.toInt = 2 ^ 63 - 1 → rounded i.toInt.natAbs = 2 ^ 63 := fun h => by
    rw [h]
    decide
  rw [← rounded_eq_iff, hmax]
  unfold Integer.clamp Integer.least Integer.greatest
  rw [if_neg (by unfold nearestWhole; split <;> omega)]
  split
  · -- The number is one too many; no 64-bit integer is that, and the greatest is taken for it.
    rename_i hgreater
    rw [eq_comm, hmax]
    unfold nearestWhole at hgreater
    split at hgreater <;> omega
  · rename_i hfit
    have hvalue : (Int64.ofInt (nearestWhole i.toInt)).toInt = nearestWhole i.toInt := by
      refine Integer.toInt_ofInt ?_ (Int.not_lt.1 hfit)
      unfold nearestWhole Integer.least
      split <;> omega
    rw [← Int64.toInt_inj, hvalue]
    unfold nearestWhole at hfit ⊢
    split <;> omega

end Tabular.Number

namespace Tabular.Operation

open Number

theorem wholeInteger_ofInteger (operation : String) (i : Int64) :
    wholeInteger operation (ofInteger i) =
      .ok (.integer (Integer.clamp (nearestWhole i.toInt))) := by
  have hl := Int64.le_toInt i
  have hg := Int64.toInt_lt i
  have hle : (nearestWhole i.toInt).natAbs ≤ pow2 63 :=
    (natAbs_nearestWhole i.toInt).trans_le (rounded_le (by omega))
  rw [wholeInteger, integerPart?_ofInteger]
  exact if_pos hle

/-- Rounding an integer up and rounding it down give one answer: the integer of 53 bits followed by
    zeros that is nearest to it, within 64 bits. It is the integer itself if that has this form or
    is the greatest one. -/
theorem call_ceil_floor_integer (today : Date) (x : Int64) :
    ∃ y : Int64, ceil.call today [.integer x] = .ok (.integer y) ∧
      floor.call today [.integer x] = .ok (.integer y) ∧
      (∃ n : Int, y = Integer.clamp n ∧ Representable n.natAbs ∧
        ∀ m : Int, Representable m.natAbs → (x.toInt - n).natAbs ≤ (x.toInt - m).natAbs) ∧
      (y = x ↔ Representable x.toInt.natAbs ∨ x = Int64.maxValue) := by
  refine ⟨Integer.clamp (nearestWhole x.toInt), ?_, ?_, ⟨nearestWhole x.toInt, rfl, ?_, ?_⟩,
    clamp_nearestWhole_eq_iff x⟩
  · change wholeInteger "ceil" (roundTo .up (ofInteger x)) = _
    rw [roundTo_ofInteger, wholeInteger_ofInteger]
  · change wholeInteger "floor" (roundTo .down (ofInteger x)) = _
    rw [roundTo_ofInteger, wholeInteger_ofInteger]
  · rw [natAbs_nearestWhole]
    exact representable_rounded _
  · exact fun m hm => nearestWhole_nearest x.toInt hm

/-- An integer of 54 bits is rounded to the even neighbour, while its absolute value is exact. -/
theorem ceil_largeInteger :
    ceil.call .epoch [.integer 9007199254740993] = .ok (.integer 9007199254740992) ∧
    floor.call .epoch [.integer 9007199254740993] = .ok (.integer 9007199254740992) ∧
    (abs .integer).call .epoch [.integer 9007199254740993] =
      .ok (.integer 9007199254740993) := by
  decide +kernel

end Tabular.Operation
