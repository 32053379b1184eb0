import Tabular.Proofs.Number.Nearest

set_option autoImplicit false

namespace Tabular.Number

open Float.Model UnpackedFloat

/-- The bits as a magnitude with a sign. -/
def level (x : Number) : Int :=
  if x.isNegative then -(x.abs.bits.toNat : Int) else x.abs.bits.toNat

theorem isNegative_iff (x : Number) : x.isNegative = true ↔ 2 ^ 63 ≤ x.bits.toNat :=
  decide_eq_true_iff.trans UInt64.le_iff_toNat_le

theorem level_eq (x : Number) :
    x.level = if 2 ^ 63 ≤ x.bits.toNat then -((x.bits.toNat % 2 ^ 63 : Nat) : Int)
      else ((x.bits.toNat % 2 ^ 63 : Nat) : Int) := by
  rw [level, toNat_abs]
  simp only [isNegative_iff]

theorem natAbs_level (x : Number) : x.level.natAbs = x.bits.toNat % 2 ^ 63 := by
  rw [level_eq]
  split <;> omega

theorem isNaN_iff_level (x : Number) : x.isNaN = true ↔ 2047 * 2 ^ 52 < x.level.natAbs := by
  rw [isNaN_iff, natAbs_level]

/-- The magnitude of a finite number is in the order of its exponent, and of its mantissa where the
    exponents are equal. -/
theorem Canonical.place_compare {m n : Nat} {e f : Int} (hm : Canonical m e) (hn : Canonical n f) :
    (compare e f).then (compare m n) = compare (place m e : Int) (place n f) := by
  have hbelow := hm.below
  have hbelow' := hn.below
  have hleast := hm.least
  have hleast' := hn.least
  unfold place
  rcases Int.lt_trichotomy e f with hlt | rfl | hgt
  · have hlead : 2 ^ 52 ≤ n := hn.leading.resolve_right (by omega)
    rw [Int.compare_eq_lt.2 hlt, eq_comm]
    exact Int.compare_eq_lt.2 (by omega)
  · rw [Int.compare_eq_eq.2 rfl, Ordering.then, eq_comm]
    rcases Nat.lt_trichotomy m n with hlt | rfl | hgt
    · rw [Nat.compare_eq_lt.2 hlt]
      exact Int.compare_eq_lt.2 (by omega)
    · rw [Nat.compare_eq_eq.2 rfl]
      exact Int.compare_eq_eq.2 rfl
    · rw [Nat.compare_eq_gt.2 hgt]
      exact Int.compare_eq_gt.2 (by omega)
  · have hlead : 2 ^ 52 ≤ m := hm.leading.resolve_right (by omega)
    rw [Int.compare_eq_gt.2 hgt, eq_comm]
    exact Int.compare_eq_gt.2 (by omega)

def levelOf : UnpackedFloat → Int
  | .infinity s => s.apply (2047 * 2 ^ 52 : Nat)
  | .finite s m e _ => s.apply (place m e)
  | _ => 0

theorem level_of_components {x : Number} {s : Sign} {b m : Nat} (hb : b < 2 ^ 11)
    (h : packComponents Format.binary64 s (BitVec.ofNat 11 b) (BitVec.ofNat 52 m) =
      x.bits.toBitVec) : x.level = s.apply (b * 2 ^ 52 + m % 2 ^ 52 : Nat) := by
  have hbits : x.bits.toNat = s.toBitVec.toNat * 2 ^ 63 + b * 2 ^ 52 + m % 2 ^ 52 := by
    rw [← toNat_packComponents s hb, h]
    rfl
  have hnegative : Sign.negative.toBitVec.toNat = 1 := rfl
  have hpositive : Sign.positive.toBitVec.toNat = 0 := rfl
  rw [level_eq, hbits]
  cases s with
  | negative =>
    rw [hnegative, if_pos (by omega), Sign.apply]
    omega
  | positive =>
    rw [hpositive, if_neg (by omega), Sign.apply]
    omega

theorem pack_small (s : Sign) {m : Nat} (hm : 0 < m) (h : m < 2 ^ 52) :
    UnpackedFloat.pack Format.binary64 (.finite s m (-1074) hm) =
      packComponents Format.binary64 s (BitVec.ofNat 11 0) (BitVec.ofNat 52 m) := by
  have hlog : m.log2 < 52 := (Nat.log2_lt (Nat.ne_of_gt hm)).2 h
  have hbias : Format.binary64.exponentBias = 1023 := by decide
  have hbits : Format.binary64.mantissaBits = 53 := by decide
  unfold UnpackedFloat.pack
  dsimp only
  rw [hbias, hbits, if_neg (by decide), if_neg (by omega)]

theorem pack_large (s : Sign) {m : Nat} {e : Int} (hm : 0 < m) (h : 971 < e) :
    UnpackedFloat.pack Format.binary64 (.finite s m e hm) =
      packComponents Format.binary64 s (BitVec.ofNat 11 2047) (BitVec.ofNat 52 0) := by
  have hbias : Format.binary64.exponentBias = 1023 := by decide
  unfold UnpackedFloat.pack
  dsimp only
  rw [hbias, if_pos (by omega)]
  rfl

theorem level_data {x : Number} (h : x.isNaN = false) : x.level = levelOf x.data := by
  have hkind := kind_data x
  have hpack := pack_data h
  generalize x.data = u at hkind hpack
  cases hkind with
  | nan hn =>
    rw [hn] at h
    cases h
  | infinite s => exact level_of_components (b := 2047) (m := 0) (by decide) hpack
  | zero s =>
    rw [level_of_components (b := 0) (m := 0) (by decide) hpack]
    cases s <;> rfl
  | @finite s m e hm hi _ hc =>
    have hbelow := hc.below
    have hleast := hc.least
    by_cases hlarge : 971 < e
    · -- Its bits would be those of an infinity.
      rw [pack_large s hm hlarge] at hpack
      have hlevel := level_of_components (by decide) hpack
      refine absurd ((abs_eq_infinity_iff x).2 ?_) hi
      rw [← natAbs_level, hlevel]
      cases s <;> rfl
    · by_cases hlead : 2 ^ 52 ≤ m
      · have hplace : (e + 1075).toNat * 2 ^ 52 + m % 2 ^ 52 = place m e := by
          unfold place
          omega
        rw [pack_normal s hm ⟨hlead, hbelow, hleast, by omega⟩] at hpack
        rw [level_of_components (by omega) hpack, hplace, levelOf]
      · obtain rfl := hc.leading.resolve_left hlead
        have hplace : 0 * 2 ^ 52 + m % 2 ^ 52 = place m (-1074) := by
          unfold place
          omega
        rw [pack_small s hm (Nat.lt_of_not_le hlead)] at hpack
        rw [level_of_components (by decide) hpack, hplace, levelOf]

theorem natAbs_level_lt {x : Number} (h : x.isNaN = false) (hi : x.abs ≠ infinity) :
    x.level.natAbs < 2047 * 2 ^ 52 := by
  have hnan := mt (isNaN_iff_level x).2 (Bool.eq_false_iff.1 h)
  have hinf := mt (abs_eq_infinity_iff x).2 hi
  rw [← natAbs_level] at hinf
  omega

theorem compare_finite {m n : Nat} {e f : Int} (s t : Sign) (hm : 0 < m) (hn : 0 < n)
    (hx : Canonical m e) (hy : Canonical n f) :
    UnpackedFloat.compare (.finite s m e hm) (.finite t n f hn) =
      some (compare (levelOf (.finite s m e hm)) (levelOf (.finite t n f hn))) := by
  have hplaces := hx.place_compare hy
  have hpos : 0 < place m e := Nat.add_pos_right _ hm
  have hpos' : 0 < place n f := Nat.add_pos_right _ hn
  have hneg (a b : Int) : compare (-a) (-b) = compare b a := by
    change compareOfLessAndEq (-a) (-b) = compareOfLessAndEq b a
    simp only [compareOfLessAndEq, Int.neg_lt_neg_iff, Int.neg_inj, eq_comm]
  rw [levelOf, levelOf]
  cases s <;> cases t <;> rw [UnpackedFloat.compare, Sign.apply, Sign.apply]
  · rw [hneg, hplaces, ← Std.OrientedCmp.eq_swap]
  · rw [Int.compare_eq_lt.2 (by omega)]
  · rw [Int.compare_eq_gt.2 (by omega)]
  · rw [hplaces]

theorem compare_kinds {x y : Number} {u v : UnpackedFloat} (hu : Kind x u) (hv : Kind y v)
    (hx : x.isNaN = false) (hy : y.isNaN = false)
    (hxu : x.level = levelOf u) (hyv : y.level = levelOf v) :
    u.compare v = some (compare (levelOf u) (levelOf v)) := by
  have hlt {a b : Int} (h : a < b) : some Ordering.lt = some (compare a b) :=
    congrArg some (Int.compare_eq_lt.2 h).symm
  have hgt {a b : Int} (h : b < a) : some Ordering.gt = some (compare a b) :=
    congrArg some (Int.compare_eq_gt.2 h).symm
  have hplace {m : Nat} (hm : 0 < m) (e : Int) : 0 < place m e := Nat.add_pos_right _ hm
  cases hu with
  | nan h => simp [h] at hx
  | infinite s =>
    cases hv with
    | nan h => simp [h] at hy
    | infinite t => cases s <;> cases t <;> rfl
    | zero t => cases s <;> rfl
    | finite t hm hi =>
      have hbound := natAbs_level_lt hy hi
      rw [hyv] at hbound
      cases s
      · exact hlt (by change -((2047 * 2 ^ 52 : Nat) : Int) < _; omega)
      · exact hgt (by change _ < ((2047 * 2 ^ 52 : Nat) : Int); omega)
  | zero s =>
    cases hv with
    | nan h => simp [h] at hy
    | infinite t => cases t <;> rfl
    | zero t => rfl
    | @finite t m e hm =>
      have hpos := hplace hm e
      cases t
      · exact hgt (by change -(place m e : Int) < 0; omega)
      · exact hlt (by change 0 < (place m e : Int); omega)
  | @finite s m e hm hi _ hc =>
    cases hv with
    | nan h => simp [h] at hy
    | infinite t =>
      have hbound := natAbs_level_lt hx hi
      rw [hxu] at hbound
      cases t
      · exact hgt (by change -((2047 * 2 ^ 52 : Nat) : Int) < _; omega)
      · exact hlt (by change _ < ((2047 * 2 ^ 52 : Nat) : Int); omega)
    | zero t =>
      have hpos := hplace hm e
      cases s
      · exact hlt (by change -(place m e : Int) < 0; omega)
      · exact hgt (by change 0 < (place m e : Int); omega)
    | finite t hn _ _ hd => exact compare_finite s t hm hn hc hd

theorem compare_data {x y : Number} (hx : x.isNaN = false) (hy : y.isNaN = false) :
    x.data.compare y.data = some (compare x.level y.level) := by
  have hlevel := level_data hx
  have hlevel' := level_data hy
  rw [hlevel, hlevel']
  exact compare_kinds (kind_data x) (kind_data y) hx hy hlevel hlevel'

theorem unpack_toFloat_of_isNaN {x : Number} (h : x.isNaN = true) :
    x.toFloat.toModel.unpack = .notANumber := by
  have hpack : x.toFloat.toModel.toBits.toBitVec = packedNaN Format.binary64 := by
    change UnpackedFloat.pack Format.binary64
      (UnpackedFloat.unpack Format.binary64 x.bits.toBitVec) = _
    rw [pack_unpack, (isNaNBits_iff x).2 h, if_pos rfl]
  rw [Float.Model.unpack, hpack]
  rfl

/-- Numeric comparison goes by the level, and does not hold of a NaN. -/
theorem atMost_iff (x y : Number) :
    x.atMost y = true ↔ x.isNaN = false ∧ y.isNaN = false ∧ x.level ≤ y.level := by
  have hle : x.atMost y = true ↔
      x.toFloat.toModel.unpack.le y.toFloat.toModel.unpack = true := by
    rw [atMost, decide_eq_true_iff]
    exact decide_eq_true_iff
  rw [hle, UnpackedFloat.le]
  cases hx : x.isNaN with
  | true => simp [unpack_toFloat_of_isNaN hx, UnpackedFloat.compare]
  | false =>
    cases hy : y.isNaN with
    | true =>
      rw [unpack_toFloat_of_isNaN hy]
      cases x.toFloat.toModel.unpack <;> simp [UnpackedFloat.compare]
    | false =>
      rw [unpack_toFloat hx, unpack_toFloat hy, compare_data hx hy, Option.any_some,
        Std.isLE_compare]
      simp

theorem level_le_of_order {x y : Number} (h : (order x y).isLE) : x.level ≤ y.level := by
  rw [order_isLE_iff, toNat_orderKey, toNat_orderKey] at h
  have hx := x.bits.toNat_lt
  have hy := y.bits.toNat_lt
  rw [level_eq, level_eq]
  split at h <;> split at h <;> omega

/-- Between two numbers in the total order there is no NaN. -/
theorem isNaN_of_between {x y z : Number} (hx : x.isNaN = false) (hz : z.isNaN = false)
    (hxy : (order x y).isLE) (hyz : (order y z).isLE) : y.isNaN = false := by
  have hx := mt (isNaN_iff_level x).2 (Bool.eq_false_iff.1 hx)
  have hz := mt (isNaN_iff_level z).2 (Bool.eq_false_iff.1 hz)
  have hxy := level_le_of_order hxy
  have hyz := level_le_of_order hyz
  exact Bool.eq_false_iff.2 fun hy => by
    have hy := (isNaN_iff_level y).1 hy
    omega

end Tabular.Number
