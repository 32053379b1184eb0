import Mathlib
import Tabular.Proofs.Keys

set_option autoImplicit false

namespace Tabular.Number

open Float.Model UnpackedFloat

def data (x : Number) : UnpackedFloat := UnpackedFloat.unpack Format.binary64 x.bits.toBitVec

theorem toNat_abs (x : Number) : x.abs.bits.toNat = x.bits.toNat % 2 ^ 63 := by
  change (x.bits &&& (signBit - 1)).toNat = _
  rw [UInt64.toNat_and, show (signBit - 1).toNat = 2 ^ 63 - 1 from rfl,
    Nat.and_two_pow_sub_one_eq_mod]

theorem isNaN_iff (x : Number) : x.isNaN = true ↔ 2047 * 2 ^ 52 < x.bits.toNat % 2 ^ 63 := by
  rw [← toNat_abs]
  exact decide_eq_true_iff

theorem isZero_iff (x : Number) : x.isZero = true ↔ x.bits.toNat % 2 ^ 63 = 0 := by
  rw [isZero, beq_iff_eq, ← toNat_abs, ← UInt64.toNat_inj]
  rfl

theorem abs_eq_infinity_iff (x : Number) :
    x.abs = infinity ↔ x.bits.toNat % 2 ^ 63 = 2047 * 2 ^ 52 := by
  rw [← toNat_abs]
  constructor
  · intro h
    rw [h]
    rfl
  · intro h
    have hb : x.abs.bits = infinity.bits := UInt64.toNat_inj.1 h
    cases hx : x.abs with
    | mk bits =>
      rw [hx] at hb
      exact congrArg Number.mk hb

theorem toNat_exponent (x : Number) :
    (@unpackExponent Format.binary64 x.bits.toBitVec).toNat =
      x.bits.toNat / 2 ^ 52 % 2 ^ 11 := by
  rw [unpackExponent_def, BitVec.extractLsb'_toNat, Nat.shiftRight_eq_div_pow]
  rfl

theorem toNat_mantissa (x : Number) :
    (@unpackMantissa Format.binary64 x.bits.toBitVec).toNat = x.bits.toNat % 2 ^ 52 := by
  rw [unpackMantissa_def, BitVec.extractLsb'_toNat, Nat.shiftRight_zero]
  rfl

theorem toNat_leading (man : BitVec 52) : (1#1 ++ man).toNat = 2 ^ 52 + man.toNat := by
  rw [BitVec.toNat_append, ← Nat.shiftLeft_add_eq_or_of_lt man.isLt]
  rfl

/-- The mantissa and the exponent of a finite number: the leading bit is set unless the exponent is
    the least. -/
structure Canonical (m : Nat) (e : Int) : Prop where
  least : -1074 ≤ e
  below : m < 2 ^ 53
  leading : 2 ^ 52 ≤ m ∨ e = -1074

inductive Kind (x : Number) : UnpackedFloat → Prop
  | nan (h : x.isNaN = true) : Kind x .notANumber
  | infinite (s : Sign) (h : x.abs = infinity) : Kind x (.infinity s)
  | zero (s : Sign) (h : x.isZero = true) : Kind x (.zero s)
  | finite (s : Sign) {m : Nat} {e : Int} (hm : 0 < m) (hi : x.abs ≠ infinity)
      (hz : x.isZero = false) (hc : Canonical m e) : Kind x (.finite s m e hm)

theorem kind_data (x : Number) : Kind x x.data := by
  have hx := toNat_exponent x
  have hm := toNat_mantissa x
  have hbias : Format.binary64.exponentBias = 1023 := by decide
  unfold data UnpackedFloat.unpack
  dsimp only
  rw [hbias]
  set ex := @unpackExponent Format.binary64 x.bits.toBitVec
  set man := @unpackMantissa Format.binary64 x.bits.toBitVec
  have hman : man.toNat < 2 ^ 52 := man.isLt
  have hex : ex.toNat < 2 ^ 11 := ex.isLt
  by_cases hones : ex = -1#11
  · have hones' : ex.toNat = 2047 := by rw [hones]; rfl
    rw [if_pos hones]
    by_cases hzero : man = 0#52
    · have hzero' : man.toNat = 0 := by rw [hzero]; rfl
      rw [if_pos hzero]
      exact .infinite _ ((abs_eq_infinity_iff x).2 (by omega))
    · have hzero' : man.toNat ≠ 0 := fun h => hzero (BitVec.eq_of_toNat_eq h)
      rw [if_neg hzero]
      exact .nan ((isNaN_iff x).2 (by omega))
  · have hones' : ex.toNat ≠ 2047 := fun h => hones (BitVec.eq_of_toNat_eq h)
    have hi : x.abs ≠ infinity := fun h => by
      have h := (abs_eq_infinity_iff x).1 h
      omega
    rw [if_neg hones]
    by_cases hleast : ex = 0#11
    · have hleast' : ex.toNat = 0 := by rw [hleast]; rfl
      rw [if_pos hleast]
      by_cases hzero : man = 0#52
      · have hzero' : man.toNat = 0 := by rw [hzero]; rfl
        rw [dif_pos hzero]
        exact .zero _ ((isZero_iff x).2 (by omega))
      · have hzero' : man.toNat ≠ 0 := fun h => hzero (BitVec.eq_of_toNat_eq h)
        rw [dif_neg hzero]
        refine .finite _ _ hi (Bool.eq_false_iff.2 fun h => ?_)
          ⟨by omega, by omega, .inr (by omega)⟩
        have h := (isZero_iff x).1 h
        omega
    · have hleast' : ex.toNat ≠ 0 := fun h => hleast (BitVec.eq_of_toNat_eq h)
      have hlead := toNat_leading man
      rw [if_neg hleast]
      refine .finite _ _ hi (Bool.eq_false_iff.2 fun h => ?_)
        ⟨by omega, by rw [hlead]; omega, .inl (by rw [hlead]; omega)⟩
      have h := (isZero_iff x).1 h
      omega

theorem isNaNBits_iff (x : Number) :
    @isNaNBits Format.binary64 x.bits.toBitVec = true ↔ x.isNaN = true := by
  have hx := toNat_exponent x
  have hm := toNat_mantissa x
  rw [isNaN_iff]
  constructor
  · intro hb
    obtain ⟨hones, hzero⟩ := of_decide_eq_true hb
    rw [hones] at hx
    have hne : x.bits.toNat % 2 ^ 52 ≠ 0 := fun h => hzero (BitVec.eq_of_toNat_eq (hm.trans h))
    change 2047 = _ at hx
    omega
  · intro hn
    refine decide_eq_true ⟨BitVec.eq_of_toNat_eq (hx.trans ?_), fun hzero => ?_⟩
    · change _ = 2047
      omega
    · rw [hzero] at hm
      change 0 = _ at hm
      omega

/-- A number is known by what it is taken apart into, unless it is a NaN. -/
theorem pack_data {x : Number} (h : x.isNaN = false) :
    UnpackedFloat.pack Format.binary64 x.data = x.bits.toBitVec := by
  have hbits : @isNaNBits Format.binary64 x.bits.toBitVec = false :=
    Bool.eq_false_iff.2 (mt (isNaNBits_iff x).1 (Bool.eq_false_iff.1 h))
  rw [data, pack_unpack, hbits]
  rfl

theorem data_inj {x y : Number} (hx : x.isNaN = false) (hy : y.isNaN = false) :
    x.data = y.data ↔ x = y := by
  constructor
  · intro h
    have hb : x.bits.toBitVec = y.bits.toBitVec := by rw [← pack_data hx, h, pack_data hy]
    cases x
    cases y
    exact congrArg Number.mk (UInt64.toBitVec_inj.1 hb)
  · intro h
    rw [h]

theorem targetExponent_eq (t : Int) : Format.binary64.targetExponent t = max (t - 53) (-1074) := by
  rw [Format.targetExponent]
  rfl

theorem mantissa_shiftRight (em : ExtendedMantissa) (k : Nat) :
    (em >>> k).mantissa = em.mantissa / 2 ^ k := by
  induction k with
  | zero => exact (Nat.div_one _).symm
  | succ k ih =>
    change (em >>> k).mantissa / 2 = _
    rw [ih, Nat.div_div_eq_div_mul, Nat.pow_succ]

theorem mantissa_ofMantissaAndAccuracy (m : Nat) (a : Accuracy) :
    (ExtendedMantissa.ofMantissaAndAccuracy m a).mantissa = m := by
  cases a with
  | exact => rfl
  | inexact o => cases o <;> rfl

theorem le_roundedMantissa (em : ExtendedMantissa) : em.mantissa ≤ em.roundedMantissa := by
  unfold ExtendedMantissa.roundedMantissa Accuracy.roundToNearestEven
  split <;> omega

theorem shifted_bounds {m : Nat} (hm : 0 < m) {e : Int} (he : -1074 ≤ e) :
    0 < m / 2 ^ (Format.binary64.targetExponent (totalExponent m e) - e).toNat ∧
      m / 2 ^ (Format.binary64.targetExponent (totalExponent m e) - e).toNat < 2 ^ 53 := by
  have hlow := Nat.log2_self_le (Nat.ne_of_gt hm)
  have hhigh := @Nat.lt_log2_self m
  rw [targetExponent_eq, totalExponent]
  generalize m.log2 = bits at hlow hhigh ⊢
  by_cases hbits : 52 ≤ bits
  · have hshift : (max ((bits : Int) + 1 + e - 53) (-1074) - e).toNat = bits - 52 := by omega
    have hsplit : 2 ^ bits = 2 ^ 52 * 2 ^ (bits - 52) := by rw [← Nat.pow_add]; congr 1; omega
    rw [hshift]
    constructor
    · refine Nat.div_pos ?_ (Nat.two_pow_pos _)
      have hone : 2 ^ (bits - 52) ≤ 2 ^ bits := Nat.pow_le_pow_right (by decide) (by omega)
      exact hone.trans hlow
    · rw [Nat.div_lt_iff_lt_mul (Nat.two_pow_pos _)]
      rw [Nat.pow_succ] at hhigh
      omega
  · have hshift : (max ((bits : Int) + 1 + e - 53) (-1074) - e).toNat = 0 := by omega
    rw [hshift, Nat.pow_zero, Nat.div_one]
    have hpow : 2 ^ (bits + 1) ≤ 2 ^ 53 := Nat.pow_le_pow_right (by decide) (by omega)
    exact ⟨hm, by omega⟩

theorem round_ne_zero (s : Sign) {m : Nat} (hm : 0 < m) {e : Int} (he : -1074 ≤ e) :
    ∃ n f hn, UnpackedFloat.round Format.binary64 s m e = .finite s n f hn ∧ n < 2 ^ 53 ∧
      -1074 ≤ f := by
  unfold UnpackedFloat.round decreaseExponent
  dsimp only
  have hm' : 0 < m <<< (e - Format.binary64.targetExponent (totalExponent m e)).toNat := by
    rw [Nat.shiftLeft_eq]
    exact Nat.mul_pos hm (Nat.two_pow_pos _)
  have he' : -1074 ≤ e - (e - Format.binary64.targetExponent (totalExponent m e)).toNat := by
    rw [targetExponent_eq]
    omega
  generalize m <<< (e - Format.binary64.targetExponent (totalExponent m e)).toNat = n at hm' ⊢
  generalize e - ((e - Format.binary64.targetExponent (totalExponent m e)).toNat : Int) = f
    at he' ⊢
  unfold roundWithAccuracy shiftToTargetExponent shiftToExponent
  dsimp only
  have hfirst := (shifted_bounds hm' he').1
  generalize (Format.binary64.targetExponent (totalExponent n f) - f).toNat = k at hfirst ⊢
  have hrounded := le_roundedMantissa (ExtendedMantissa.ofMantissaAndAccuracy n .exact >>> k)
  rw [mantissa_shiftRight, mantissa_ofMantissaAndAccuracy] at hrounded
  generalize (ExtendedMantissa.ofMantissaAndAccuracy n .exact >>> k).roundedMantissa = r
    at hrounded ⊢
  obtain ⟨hpos, hbelow⟩ := shifted_bounds (show 0 < r by omega) (show -1074 ≤ f + k by omega)
  rw [← mantissa_ofMantissaAndAccuracy r .exact, ← mantissa_shiftRight,
    mantissa_ofMantissaAndAccuracy] at hpos hbelow
  rw [dif_neg (Nat.ne_of_gt hpos)]
  exact ⟨_, _, hpos, rfl, hbelow, by omega⟩

def Ranged (u : UnpackedFloat) : Prop :=
  ∀ s m e hm, u = .finite s m e hm → m < 2 ^ 53 ∧ -1074 ≤ e

theorem Ranged.canonical {m : Nat} {e : Int} (h : Canonical m e) (s : Sign) (hm : 0 < m) :
    Ranged (.finite s m e hm) := by
  rintro _ _ _ _ ⟨⟩
  exact ⟨h.below, h.least⟩

theorem normalize_zero (e : Int) (s : Sign) :
    UnpackedFloat.normalize Format.binary64 0 e s = .zero s := rfl

theorem normalize_ne_zero {d : Int} (hd : d ≠ 0) {e : Int} (he : -1074 ≤ e) (z : Sign) :
    ∃ s n f hn, UnpackedFloat.normalize Format.binary64 d e z = .finite s n f hn ∧ n < 2 ^ 53 ∧
      -1074 ≤ f := by
  by_cases hneg : d < 0
  · refine ⟨.negative, ?_⟩
    unfold UnpackedFloat.normalize
    rw [Int.compare_eq_lt.2 hneg]
    exact round_ne_zero .negative (by omega) he
  · refine ⟨.positive, ?_⟩
    unfold UnpackedFloat.normalize
    rw [Int.compare_eq_gt.2 (show 0 < d by omega)]
    exact round_ne_zero .positive (by omega) he

theorem isZero_packComponents (s : Sign) (e : BitVec 11) (m : BitVec 52) :
    (⟨UInt64.ofBitVec (packComponents Format.binary64 s e m)⟩ : Number).isZero = true ↔
      e = 0#11 ∧ m = 0#52 := by
  have hx := toNat_exponent ⟨UInt64.ofBitVec (packComponents Format.binary64 s e m)⟩
  have hm := toNat_mantissa ⟨UInt64.ofBitVec (packComponents Format.binary64 s e m)⟩
  rw [UInt64.toBitVec_ofBitVec, unpackExponent_packComponents] at hx
  rw [UInt64.toBitVec_ofBitVec, unpackMantissa_packComponents] at hm
  rw [isZero_iff, ← BitVec.toNat_inj, ← BitVec.toNat_inj, hx, hm, BitVec.toNat_ofNat,
    BitVec.toNat_ofNat]
  omega

theorem isZero_pack {u : UnpackedFloat} (h : Ranged u) :
    (⟨UInt64.ofBitVec (UnpackedFloat.pack Format.binary64 u)⟩ : Number).isZero = true ↔
      ∃ s, u = .zero s := by
  have hones : (-1#11) ≠ 0#11 := by decide
  cases u with
  | notANumber => exact iff_of_false (by decide) (by simp)
  | infinity s =>
    refine iff_of_false (fun hz => ?_) (by simp)
    exact hones ((isZero_packComponents s (-1#11) 0#52).1 hz).1
  | zero s => exact iff_of_true ((isZero_packComponents s 0#11 0#52).2 ⟨rfl, rfl⟩) ⟨s, rfl⟩
  | finite s m e hm =>
    obtain ⟨hbelow, hleast⟩ := h s m e hm rfl
    refine iff_of_false ?_ (by simp)
    have hlog : m.log2 < 53 := (Nat.log2_lt (Nat.ne_of_gt hm)).2 hbelow
    have hbias : Format.binary64.exponentBias = 1023 := by decide
    have hbits : Format.binary64.mantissaBits = 53 := by decide
    unfold UnpackedFloat.pack
    dsimp only
    rw [hbias, hbits]
    by_cases hlarge : 2 ^ 11 ≤ (e + (1023 : Nat) + (52 : Nat)).toNat + 1
    · rw [if_pos hlarge]
      exact fun hz => hones ((isZero_packComponents s (-1#11) 0#52).1 hz).1
    · rw [if_neg hlarge]
      by_cases hnormal : m.log2 + 1 = 53
      · rw [if_pos hnormal, isZero_packComponents]
        rintro ⟨hz, -⟩
        have hz := congrArg BitVec.toNat hz
        rw [BitVec.toNat_ofNat, BitVec.toNat_ofNat] at hz
        omega
      · rw [if_neg hnormal, isZero_packComponents]
        rintro ⟨-, hz⟩
        have hsmall : m < 2 ^ 52 := (Nat.log2_lt (Nat.ne_of_gt hm)).1 (by omega)
        have hz := congrArg BitVec.toNat hz
        rw [BitVec.toNat_ofNat, BitVec.toNat_ofNat] at hz
        omega

theorem isZero_ofOutcome (f : Float) : (ofOutcome f).isZero = (ofFloat f).isZero := by
  unfold ofOutcome
  cases hf : f.isNaN
  · rfl
  · have hbits : f.toBits.toBitVec = packedNaN Format.binary64 :=
      (isNaN_unpack_iff_of_valid f.toModel.valid).1 hf
    have hfloat : ofFloat f = ⟨UInt64.ofBitVec (packedNaN Format.binary64)⟩ := by
      rw [← hbits]
      rfl
    rw [hfloat, if_pos rfl]
    decide

theorem unpack_toFloat {x : Number} (h : x.isNaN = false) : x.toFloat.toModel.unpack = x.data :=
  congrArg (UnpackedFloat.unpack Format.binary64) (pack_data h)

theorem isZero_sub_data {x y : Number} (hx : x.isNaN = false) (hy : y.isNaN = false) :
    (x - y).isZero = (⟨UInt64.ofBitVec (UnpackedFloat.pack Format.binary64
      (UnpackedFloat.sub Format.binary64 x.data y.data))⟩ : Number).isZero := by
  change (binary _ x y).isZero = _
  unfold binary
  rw [hx, hy, if_neg Bool.false_ne_true, if_neg Bool.false_ne_true, isZero_ofOutcome,
    ← unpack_toFloat hx, ← unpack_toFloat hy]
  rfl

theorem Canonical.unique {m n : Nat} {e f : Int} (hm : Canonical m e) (hn : Canonical n f)
    (h : m <<< (e - min e f).toNat = n <<< (f - min e f).toNat) : m = n ∧ e = f := by
  rw [Nat.shiftLeft_eq, Nat.shiftLeft_eq] at h
  have hm' := hm.below
  have hn' := hn.below
  by_cases hlt : e < f
  · have hlead : 2 ^ 52 ≤ n := hn.leading.resolve_right (by have := hm.least; omega)
    have htwo : 2 ^ 1 ≤ 2 ^ (f - min e f).toNat := Nat.pow_le_pow_right (by decide) (by omega)
    have hzero : (e - min e f).toNat = 0 := by omega
    have := Nat.mul_le_mul hlead htwo
    rw [hzero] at h
    omega
  · by_cases hgt : f < e
    · have hlead : 2 ^ 52 ≤ m := hm.leading.resolve_right (by have := hn.least; omega)
      have htwo : 2 ^ 1 ≤ 2 ^ (e - min e f).toNat := Nat.pow_le_pow_right (by decide) (by omega)
      have hzero : (f - min e f).toNat = 0 := by omega
      have := Nat.mul_le_mul hlead htwo
      rw [hzero] at h
      omega
    · have he : e = f := by omega
      rw [he, min_self, Int.sub_self] at h
      exact ⟨by simpa using h, he⟩

theorem apply_sub_apply_eq_zero {m n : Nat} (hm : 0 < m) (hn : 0 < n) (s t : Sign) :
    s.apply m - t.apply n = 0 ↔ s = t ∧ m = n := by
  cases s <;> cases t <;> simp [Sign.apply] <;> omega

/-- Finite numbers whose difference is a zero are equal. -/
theorem sub_finite {m n : Nat} {e f : Int} (s t : Sign) (hm : 0 < m) (hn : 0 < n)
    (hx : Canonical m e) (hy : Canonical n f) :
    Ranged (UnpackedFloat.sub Format.binary64 (.finite s m e hm) (.finite t n f hn)) ∧
      ((∃ z, UnpackedFloat.sub Format.binary64 (.finite s m e hm) (.finite t n f hn) = .zero z) ↔
        UnpackedFloat.finite s m e hm = .finite t n f hn) := by
  have hleast : -1074 ≤ min e f := by
    have := hx.least
    have := hy.least
    omega
  have hm' : 0 < m <<< (e - min e f).toNat := by
    rw [Nat.shiftLeft_eq]
    exact Nat.mul_pos hm (Nat.two_pow_pos _)
  have hn' : 0 < n <<< (f - min e f).toNat := by
    rw [Nat.shiftLeft_eq]
    exact Nat.mul_pos hn (Nat.two_pow_pos _)
  have hzero := apply_sub_apply_eq_zero hm' hn' s t
  unfold UnpackedFloat.sub decreaseExponent
  dsimp only
  by_cases hd : s.apply (m <<< (e - min e f).toNat : Nat) -
      t.apply (n <<< (f - min e f).toNat : Nat) = 0
  · obtain ⟨rfl, h⟩ := hzero.1 hd
    obtain ⟨rfl, rfl⟩ := hx.unique hy h
    rw [hd, normalize_zero]
    exact ⟨fun _ _ _ _ h => (nomatch h), iff_of_true ⟨_, rfl⟩ rfl⟩
  · obtain ⟨r, l, k, hl, hr, hbelow, hk⟩ := normalize_ne_zero hd hleast .positive
    rw [hr]
    constructor
    · rintro _ _ _ _ ⟨⟩
      exact ⟨hbelow, hk⟩
    · refine iff_of_false (by simp) fun h => hd (hzero.2 ?_)
      obtain ⟨rfl, rfl, rfl⟩ := UnpackedFloat.finite.inj h
      exact ⟨rfl, rfl⟩

theorem equals_iff {x y : Number} (hx : x.isNaN = false) (hy : y.isNaN = false) :
    x.equals y = true ↔ x.data = y.data ∨ x.isZero = true ∧ y.isZero = true := by
  have hbits : x.bits = y.bits ↔ x.data = y.data := by
    rw [data_inj hx hy]
    cases x
    cases y
    exact ⟨congrArg Number.mk, congrArg Number.bits⟩
  simp [equals, hx, hy, hbits]

theorem isZero_of_infinite {x : Number} (h : x.abs = infinity) : x.isZero = false := by
  refine Bool.eq_false_iff.2 fun hz => ?_
  have := (abs_eq_infinity_iff x).1 h
  have := (isZero_iff x).1 hz
  omega

theorem sub_kinds {x y : Number} {u v : UnpackedFloat} (hu : Kind x u) (hv : Kind y v)
    (hx : x.isNaN = false) (hy : y.isNaN = false) :
    Ranged (UnpackedFloat.sub Format.binary64 u v) ∧
      ((∃ z, UnpackedFloat.sub Format.binary64 u v = .zero z) ↔
        (u = v ∨ x.isZero = true ∧ y.isZero = true) ∧ x.abs ≠ infinity) := by
  cases hu with
  | nan hn => simp [hn] at hx
  | infinite s hi =>
    cases hv with
    | nan hn => simp [hn] at hy
    | infinite t => simp [UnpackedFloat.sub, Ranged, hi]; split <;> simp
    | zero t => simp [UnpackedFloat.sub, Ranged, hi]
    | finite t => simp [UnpackedFloat.sub, Ranged, hi]
  | zero s hz =>
    have hi : x.abs ≠ infinity := fun h => by simp [isZero_of_infinite h] at hz
    cases hv with
    | nan hn => simp [hn] at hy
    | infinite t ht => simp [UnpackedFloat.sub, Ranged, isZero_of_infinite ht]
    | zero t ht => simp [UnpackedFloat.sub, Ranged, hz, ht, hi]; split <;> simp
    | finite t hm hti htz hc =>
      exact ⟨.canonical hc (-t) hm, iff_of_false (by simp [UnpackedFloat.sub]) (by simp [htz])⟩
  | finite s hm hi hz hc =>
    cases hv with
    | nan hn => simp [hn] at hy
    | infinite t ht => simp [UnpackedFloat.sub, Ranged, hz]
    | zero t ht =>
      exact ⟨.canonical hc s hm, iff_of_false (by simp [UnpackedFloat.sub]) (by simp [hz])⟩
    | finite t hn _ _ hd => simpa [hz, hi] using sub_finite s t hm hn hc hd

/-- The difference of two numbers is a zero exactly if they are equal and not infinite. -/
theorem isZero_sub (x y : Number) :
    (x - y).isZero = true ↔ x.equals y = true ∧ x.abs ≠ infinity := by
  by_cases hx : x.isNaN = true
  · have hsub : x - y = x := if_pos hx
    have hz : x.isZero = false := Bool.eq_false_iff.2 fun h => by simp [isNaN_of_isZero h] at hx
    simp [hsub, equals, hx, hz]
  · by_cases hy : y.isNaN = true
    · have hsub : x - y = y := (if_neg hx).trans (if_pos hy)
      have hz : y.isZero = false := Bool.eq_false_iff.2 fun h => by simp [isNaN_of_isZero h] at hy
      simp [hsub, equals, hy, hz]
    · have hx' : x.isNaN = false := Bool.eq_false_iff.2 hx
      have hy' : y.isNaN = false := Bool.eq_false_iff.2 hy
      obtain ⟨hranged, hzero⟩ := sub_kinds (kind_data x) (kind_data y) hx' hy'
      rw [isZero_sub_data hx' hy', isZero_pack hranged, hzero, equals_iff hx' hy']

theorem xor_signBit {n : Nat} (hn : n < 2 ^ 63) : n ^^^ 2 ^ 63 = n + 2 ^ 63 := by
  have hlow := Nat.xor_mod_two_pow (a := n) (b := 2 ^ 63) (n := 63)
  have hhigh := Nat.xor_div_two_pow (a := n) (b := 2 ^ 63) (n := 63)
  have hzero : n / 2 ^ 63 = 0 := by omega
  rw [Nat.mod_self, Nat.xor_zero] at hlow
  rw [hzero, Nat.zero_xor, Nat.div_self (Nat.two_pow_pos _)] at hhigh
  omega

theorem toNat_orderKey (x : Number) :
    (orderKey x).toNat = if 2 ^ 63 ≤ x.bits.toNat then 2 ^ 64 - 1 - x.bits.toNat
      else x.bits.toNat + 2 ^ 63 := by
  have hlt := x.bits.toNat_lt
  unfold orderKey isNegative
  by_cases hn : signBit ≤ x.bits
  · have hn' : 2 ^ 63 ≤ x.bits.toNat := UInt64.le_iff_toNat_le.1 hn
    rw [if_pos (decide_eq_true hn), if_pos hn', UInt64.toNat_not]
    rfl
  · have hn' : ¬ 2 ^ 63 ≤ x.bits.toNat := fun h => hn (UInt64.le_iff_toNat_le.2 h)
    rw [decide_eq_false hn, if_neg Bool.false_ne_true, if_neg hn', UInt64.toNat_xor]
    exact xor_signBit (Nat.not_le.1 hn')

theorem order_eq_iff (x y : Number) : order x y = .eq ↔ x = y := by
  rw [order, Std.compare_eq_iff_eq, ← UInt64.toNat_inj, toNat_orderKey, toNat_orderKey]
  have hx := x.bits.toNat_lt
  have hy := y.bits.toNat_lt
  constructor
  · intro h
    have hb : x.bits.toNat = y.bits.toNat := by
      split at h <;> split at h <;> omega
    cases x
    cases y
    exact congrArg Number.mk (UInt64.toNat_inj.1 hb)
  · rintro rfl
    rfl

/-- Equal in the total order but without a difference of zero, or the other way round. -/
def Parted (x y : Number) : Prop :=
  x.isZero = true ∧ y.isZero = true ∧ x ≠ y ∨ x = y ∧ (x.isNaN = true ∨ x.abs = infinity)

/-- Numbers are equal in the total order exactly if their difference is a zero, except for zeros of
    different signs, and for infinities and NaNs beside themselves. -/
theorem order_eq_iff_isZero_sub (x y : Number) :
    (order x y = .eq ↔ (x - y).isZero = true) ↔ ¬ Parted x y := by
  rw [order_eq_iff, isZero_sub, Parted]
  by_cases hxy : x = y
  · rw [← hxy]
    cases hn : x.isNaN <;> simp [equals, hn]
  · have hbits : x.bits ≠ y.bits := fun h => hxy (by cases x; cases y; exact congrArg Number.mk h)
    have hx : x.isZero = true → x.abs ≠ infinity := fun hz h => by
      simp [isZero_of_infinite h] at hz
    have he : x.equals y = true ↔ x.isZero = true ∧ y.isZero = true := by
      simp [equals, hbits]
      exact fun hzx hzy => ⟨isNaN_of_isZero hzx, isNaN_of_isZero hzy⟩
    simp only [hxy, he, ne_eq, not_false_eq_true, and_true, false_and, or_false, false_iff]
    exact not_congr ⟨fun h => h.1, fun h => ⟨h, hx h.1⟩⟩

end Tabular.Number
