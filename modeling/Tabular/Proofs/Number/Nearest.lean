import Tabular.Proofs.Number.Difference

set_option autoImplicit false

namespace Tabular.Number

open Float.Model UnpackedFloat

/-- The quotient of `n` by `2 ^ k`, rounded to the nearest with ties to even. -/
def halfEven (n k : Nat) : Nat :=
  if 2 * (n % 2 ^ k) < 2 ^ k then n / 2 ^ k
  else if 2 * (n % 2 ^ k) = 2 ^ k then n / 2 ^ k + n / 2 ^ k % 2
  else n / 2 ^ k + 1

theorem halfEven_cases (n k : Nat) :
    halfEven n k = n / 2 ^ k ∧ 2 * (n % 2 ^ k) ≤ 2 ^ k ∨
      halfEven n k = n / 2 ^ k + 1 ∧ 2 ^ k ≤ 2 * (n % 2 ^ k) := by
  unfold halfEven
  split
  · omega
  · split
    · rcases Nat.mod_two_eq_zero_or_one (n / 2 ^ k) with h | h <;> omega
    · omega

theorem halfEven_bounds (n k : Nat) :
    n / 2 ^ k ≤ halfEven n k ∧ halfEven n k ≤ n / 2 ^ k + 1 := by
  rcases halfEven_cases n k with ⟨h, -⟩ | ⟨h, -⟩ <;> omega

/-- No multiple of the divisor is nearer. -/
theorem halfEven_nearest (n k t : Nat) :
    ((n : Int) - (halfEven n k * 2 ^ k : Nat)).natAbs ≤ ((n : Int) - (t * 2 ^ k : Nat)).natAbs := by
  have hmod : n % 2 ^ k < 2 ^ k := Nat.mod_lt _ (Nat.two_pow_pos k)
  have hsplit := Nat.div_add_mod' n (2 ^ k)
  have hup := Nat.add_one_mul (n / 2 ^ k) (2 ^ k)
  have hfar : t * 2 ^ k ≤ n / 2 ^ k * 2 ^ k ∨ (n / 2 ^ k + 1) * 2 ^ k ≤ t * 2 ^ k := by
    rcases Nat.lt_or_ge (n / 2 ^ k) t with hlt | hge
    · exact .inr (Nat.mul_le_mul_right _ hlt)
    · exact .inl (Nat.mul_le_mul_right _ hge)
  rcases halfEven_cases n k with ⟨h, hhalf⟩ | ⟨h, hhalf⟩ <;> rw [h] <;> omega

theorem halfEven_mono {m n : Nat} (h : m ≤ n) (k : Nat) : halfEven m k ≤ halfEven n k := by
  have hdiv : m / 2 ^ k ≤ n / 2 ^ k := Nat.div_le_div_right h
  by_cases heq : m / 2 ^ k = n / 2 ^ k
  · -- With one quotient the greater number has the greater remainder.
    have hm := Nat.div_add_mod m (2 ^ k)
    have hn := Nat.div_add_mod n (2 ^ k)
    rw [heq] at hm
    have hmod : m % 2 ^ k ≤ n % 2 ^ k := by omega
    unfold halfEven
    rw [heq]
    generalize n / 2 ^ k = q
    split <;> split <;> first | omega | (split <;> first | omega | (split <;> omega))
  · have hm := (halfEven_bounds m k).2
    have hn := (halfEven_bounds n k).1
    omega

theorem halfEven_scale (n k j : Nat) : halfEven (n * 2 ^ j) (k + j) = halfEven n k := by
  have hpos : 0 < 2 ^ j := Nat.two_pow_pos j
  have hdiv : n * 2 ^ j / 2 ^ (k + j) = n / 2 ^ k := by
    rw [Nat.pow_add, Nat.mul_div_mul_right _ _ hpos]
  have hmod : n * 2 ^ j % 2 ^ (k + j) = n % 2 ^ k * 2 ^ j := by
    rw [Nat.pow_add, Nat.mul_mod_mul_right]
  have hlt : 2 * (n % 2 ^ k * 2 ^ j) < 2 ^ (k + j) ↔ 2 * (n % 2 ^ k) < 2 ^ k := by
    rw [Nat.pow_add, ← Nat.mul_assoc]
    exact Nat.mul_lt_mul_right hpos
  have heq : 2 * (n % 2 ^ k * 2 ^ j) = 2 ^ (k + j) ↔ 2 * (n % 2 ^ k) = 2 ^ k := by
    rw [Nat.pow_add, ← Nat.mul_assoc]
    exact Nat.mul_left_inj (Nat.ne_of_gt hpos)
  unfold halfEven
  rw [hdiv, hmod]
  simp only [hlt, heq]

@[simp] theorem halfEven_zero (n : Nat) : halfEven n 0 = n := by
  simp [halfEven, Nat.mod_one]

theorem halfEven_exact (n k : Nat) : halfEven (n * 2 ^ k) k = n := by
  have h := halfEven_scale n 0 k
  rwa [Nat.zero_add, halfEven_zero] at h

theorem shiftRight_succ (n k : Nat) :
    ExtendedMantissa.ofMantissaAndAccuracy n .exact >>> (k + 1) =
      ⟨n / 2 ^ (k + 1), n / 2 ^ k % 2 != 0, n % 2 ^ k != 0⟩ := by
  induction k with
  | zero =>
    change ExtendedMantissa.mk (n / 2) (n % 2 != 0) false = _
    simp [Nat.mod_one]
  | succ k ih =>
    change (ExtendedMantissa.ofMantissaAndAccuracy n .exact >>> (k + 1)).shiftRightOne = _
    rw [ih, ExtendedMantissa.shiftRightOne]
    have hdiv : n / 2 ^ (k + 1) / 2 = n / 2 ^ (k + 1 + 1) := by
      rw [Nat.div_div_eq_div_mul, ← Nat.pow_succ]
    have hmod : n % 2 ^ (k + 1) = n % 2 ^ k + 2 ^ k * (n / 2 ^ k % 2) := Nat.mod_pow_succ
    have hsticky : (n / 2 ^ k % 2 != 0 || n % 2 ^ k != 0) = (n % 2 ^ (k + 1) != 0) := by
      rw [hmod, Bool.eq_iff_iff]
      have hpos : 0 < 2 ^ k := Nat.two_pow_pos k
      rcases Nat.mod_two_eq_zero_or_one (n / 2 ^ k) with hb | hb
      · simp [hb]
      · simp [hb]
    dsimp only
    rw [hdiv, hsticky]

theorem roundedMantissa_shiftRight (n k : Nat) :
    (ExtendedMantissa.ofMantissaAndAccuracy n .exact >>> k).roundedMantissa = halfEven n k := by
  cases k with
  | zero => exact (halfEven_zero n).symm
  | succ k =>
    rw [shiftRight_succ]
    have hmod : n % 2 ^ (k + 1) = n % 2 ^ k + 2 ^ k * (n / 2 ^ k % 2) := Nat.mod_pow_succ
    have hlt : n % 2 ^ k < 2 ^ k := Nat.mod_lt _ (Nat.two_pow_pos k)
    unfold halfEven
    rw [hmod, Nat.pow_succ 2 k]
    rcases Nat.mod_two_eq_zero_or_one (n / 2 ^ k) with hb | hb
    · rw [hb, if_pos (by omega)]
      cases hr : n % 2 ^ k != 0 <;> rfl
    · rw [hb, if_neg (by omega)]
      by_cases hr : n % 2 ^ k = 0
      · rw [hr, if_pos (by omega)]
        rfl
      · rw [if_neg (by omega), bne_iff_ne.2 hr]
        rfl

/-- The mantissa of a number has its full 53 bits, and the exponent is in range. -/
structure Normal (m : Nat) (e : Int) : Prop where
  leading : 2 ^ 52 ≤ m
  below : m < 2 ^ 53
  least : -1074 ≤ e
  most : e ≤ 971

/-- The bits of a positive number. A mantissa of 54 bits runs over into the exponent, as it
    should. -/
def place (m : Nat) (e : Int) : Nat := (e + 1074).toNat * 2 ^ 52 + m

theorem Normal.log2 {m : Nat} {e : Int} (h : Normal m e) : m.log2 = 52 :=
  (Nat.log2_eq_iff (by have := h.leading; omega)).2 ⟨h.leading, h.below⟩

def Rounds (u : UnpackedFloat) (s : Sign) (bits : Nat) : Prop :=
  ∃ m e hm, u = .finite s m e hm ∧ Normal m e ∧ place m e = bits

theorem halfEven_width {m : Nat} (hm : 52 ≤ m.log2) :
    2 ^ 52 ≤ halfEven m (m.log2 - 52) ∧ halfEven m (m.log2 - 52) ≤ 2 ^ 53 := by
  have hne : m ≠ 0 := fun h => by simp [h] at hm
  have hlow := Nat.log2_self_le hne
  have hhigh := @Nat.lt_log2_self m
  have hsplit : 2 ^ m.log2 = 2 ^ 52 * 2 ^ (m.log2 - 52) := by
    rw [← Nat.pow_add]
    congr 1
    omega
  have hfirst : 2 ^ 52 ≤ m / 2 ^ (m.log2 - 52) :=
    (Nat.le_div_iff_mul_le (Nat.two_pow_pos _)).2 (hsplit ▸ hlow)
  have hlast : m / 2 ^ (m.log2 - 52) < 2 ^ 53 := by
    rw [Nat.div_lt_iff_lt_mul (Nat.two_pow_pos _)]
    rw [Nat.pow_succ] at hhigh
    omega
  have := halfEven_bounds m (m.log2 - 52)
  omega

theorem shiftToTargetExponent_rounded {r : Nat} {e : Int} (hr : 2 ^ 52 ≤ r) (hr' : r ≤ 2 ^ 53)
    (hl : -1074 ≤ e) (hg : e ≤ 970) :
    ∃ em e', shiftToTargetExponent Format.binary64 r e .exact = (em, e') ∧
      Normal em.mantissa e' ∧ place em.mantissa e' = place r e := by
  unfold shiftToTargetExponent shiftToExponent
  dsimp only
  rw [targetExponent_eq, totalExponent]
  refine ⟨_, _, rfl, ?_⟩
  rw [mantissa_shiftRight, mantissa_ofMantissaAndAccuracy]
  by_cases hcarry : r = 2 ^ 53
  · -- One bit too many: it is a zero, and the exponent takes one more.
    have hlog : r.log2 = 53 := by rw [hcarry]; exact Nat.log2_two_pow
    have hone : (max ((r.log2 : Int) + 1 + e - 53) (-1074) - e).toNat = 1 := by omega
    have hhalf : r / 2 ^ 1 = 2 ^ 52 := by rw [hcarry]; rfl
    rw [hone, hhalf]
    refine ⟨⟨by omega, by omega, by omega, by omega⟩, ?_⟩
    rw [place, place, hcarry]
    omega
  · have hlog : r.log2 = 52 := (Nat.log2_eq_iff (by omega)).2 ⟨hr, by omega⟩
    have hnone : (max ((r.log2 : Int) + 1 + e - 53) (-1074) - e).toNat = 0 := by omega
    rw [hnone, Nat.pow_zero, Nat.div_one]
    refine ⟨⟨hr, by omega, by omega, by omega⟩, ?_⟩
    rw [place, place]
    omega

/-- A mantissa with bits to spare is rounded half to even. -/
theorem roundWithAccuracy_exact (s : Sign) {m : Nat} (hm : 52 ≤ m.log2) {e : Int}
    (hl : -1022 ≤ m.log2 + e) (hg : m.log2 + e ≤ 1022) :
    Rounds (roundWithAccuracy Format.binary64 s m e .exact) s
      ((m.log2 + e + 1022).toNat * 2 ^ 52 + halfEven m (m.log2 - 52)) := by
  obtain ⟨hr, hr'⟩ := halfEven_width hm
  have hshift : (max ((m.log2 : Int) + 1 + e - 53) (-1074) - e).toNat = m.log2 - 52 := by omega
  have hfirst : shiftToTargetExponent Format.binary64 m e .exact =
      (ExtendedMantissa.ofMantissaAndAccuracy m .exact >>> (m.log2 - 52),
        e + (m.log2 - 52 : Nat)) := by
    unfold shiftToTargetExponent shiftToExponent
    dsimp only
    rw [targetExponent_eq, totalExponent, hshift]
  obtain ⟨em, e', hsecond, hnormal, hplace⟩ :=
    shiftToTargetExponent_rounded hr hr' (e := e + (m.log2 - 52 : Nat)) (by omega) (by omega)
  have hne : em.mantissa ≠ 0 := Nat.ne_of_gt (Nat.lt_of_lt_of_le (by decide) hnormal.leading)
  unfold roundWithAccuracy
  rw [hfirst]
  dsimp only
  rw [roundedMantissa_shiftRight, hsecond]
  refine ⟨em.mantissa, e', Nat.pos_of_ne_zero hne, dif_neg hne, hnormal, hplace.trans ?_⟩
  rw [place]
  omega

theorem toNat_packComponents (s : Sign) {b m : Nat} (hb : b < 2 ^ 11) :
    (packComponents Format.binary64 s (BitVec.ofNat 11 b) (BitVec.ofNat 52 m)).toNat =
      s.toBitVec.toNat * 2 ^ 63 + b * 2 ^ 52 + m % 2 ^ 52 := by
  have hlow : m % 2 ^ 52 < 2 ^ 52 := Nat.mod_lt _ (Nat.two_pow_pos _)
  rw [packComponents, BitVec.toNat_append, BitVec.toNat_append, BitVec.toNat_ofNat,
    BitVec.toNat_ofNat, Nat.mod_eq_of_lt hb, ← Nat.shiftLeft_add_eq_or_of_lt hb,
    ← Nat.shiftLeft_add_eq_or_of_lt hlow, Nat.shiftLeft_eq, Nat.shiftLeft_eq]
  omega

theorem pack_normal (s : Sign) {m : Nat} {e : Int} (hm : 0 < m) (h : Normal m e) :
    UnpackedFloat.pack Format.binary64 (.finite s m e hm) =
      packComponents Format.binary64 s (BitVec.ofNat 11 (e + 1075).toNat) (BitVec.ofNat 52 m) := by
  have hbias : Format.binary64.exponentBias = 1023 := by decide
  have hbits : Format.binary64.mantissaBits = 53 := by decide
  have hleast := h.least
  have hmost := h.most
  have he : (e + (1023 : Nat) + (52 : Nat)).toNat = (e + 1075).toNat := by omega
  unfold UnpackedFloat.pack
  dsimp only
  rw [hbias, hbits, h.log2, if_neg (by omega), if_pos rfl, he]

theorem toNat_pack (s : Sign) {m : Nat} {e : Int} (hm : 0 < m) (h : Normal m e) :
    (UnpackedFloat.pack Format.binary64 (.finite s m e hm)).toNat =
      s.toBitVec.toNat * 2 ^ 63 + place m e := by
  have hleast := h.least
  have hmost := h.most
  have hlead := h.leading
  have hbelow := h.below
  rw [pack_normal s hm h, toNat_packComponents s (by omega), place]
  omega

theorem unpack_packComponents (s : Sign) {e : BitVec 11} (man : BitVec 52) (hones : e ≠ -1#11)
    (hzero : e ≠ 0#11) : ∃ hm, UnpackedFloat.unpack Format.binary64
      (packComponents Format.binary64 s e man) =
        .finite s (2 ^ 52 + man.toNat) ((e.toNat : Int) - 1075) hm := by
  have hbias : Format.binary64.exponentBias = 1023 := by decide
  refine ⟨by omega, ?_⟩
  simp only [UnpackedFloat.unpack, unpackExponent_packComponents, unpackMantissa_packComponents,
    unpackSign_packComponents, Sign.ofBitVec_toBitVec, hbias, if_neg hones, if_neg hzero,
    toNat_leading]
  rfl

theorem unpack_pack (s : Sign) {m : Nat} {e : Int} (hm : 0 < m) (h : Normal m e) :
    UnpackedFloat.unpack Format.binary64 (UnpackedFloat.pack Format.binary64 (.finite s m e hm)) =
      .finite s m e hm := by
  have hleast := h.least
  have hmost := h.most
  have hlead := h.leading
  have hbelow := h.below
  have hexponent : (BitVec.ofNat 11 (e + 1075).toNat).toNat = (e + 1075).toNat := by
    rw [BitVec.toNat_ofNat]
    omega
  have hones : BitVec.ofNat 11 (e + 1075).toNat ≠ -1#11 := fun heq => by
    rw [heq] at hexponent
    change 2047 = _ at hexponent
    omega
  have hzero : BitVec.ofNat 11 (e + 1075).toNat ≠ 0#11 := fun heq => by
    rw [heq] at hexponent
    change 0 = _ at hexponent
    omega
  have hmantissa : 2 ^ 52 + (BitVec.ofNat 52 m).toNat = m := by
    rw [BitVec.toNat_ofNat]
    omega
  have hvalue : ((e + 1075).toNat : Int) - 1075 = e := by omega
  obtain ⟨_, hunpack⟩ := unpack_packComponents s (BitVec.ofNat 52 m) hones hzero
  rw [pack_normal s hm h, hunpack]
  simp only [hmantissa, hexponent, hvalue]

def magnitude (n : Nat) : Nat :=
  if n = 0 then 0 else (n.log2 + 1022) * 2 ^ 52 + halfEven (n * 2 ^ 52) n.log2

theorem magnitude_of_pos {n : Nat} (hn : 0 < n) :
    magnitude n = (n.log2 + 1022) * 2 ^ 52 + halfEven (n * 2 ^ 52) n.log2 :=
  if_neg (Nat.ne_of_gt hn)

theorem magnitude_bounds {n : Nat} (hn : 0 < n) :
    (n.log2 + 1023) * 2 ^ 52 ≤ magnitude n ∧ magnitude n ≤ (n.log2 + 1024) * 2 ^ 52 := by
  have hlow := Nat.log2_self_le (Nat.ne_of_gt hn)
  have hhigh : n ≤ 2 ^ (n.log2 + 1) := Nat.le_of_lt Nat.lt_log2_self
  have hleast : halfEven (2 ^ n.log2 * 2 ^ 52) n.log2 = 2 ^ 52 := by
    rw [Nat.mul_comm, halfEven_exact]
  have hmost : halfEven (2 ^ (n.log2 + 1) * 2 ^ 52) n.log2 = 2 ^ 53 := by
    rw [Nat.pow_succ, Nat.mul_assoc, Nat.mul_comm, halfEven_exact]
    rfl
  have h := halfEven_mono (Nat.mul_le_mul_right (2 ^ 52) hlow) n.log2
  have h' := halfEven_mono (Nat.mul_le_mul_right (2 ^ 52) hhigh) n.log2
  rw [magnitude_of_pos hn]
  omega

theorem log2_scale {n : Nat} (hn : 0 < n) (k : Nat) : (n * 2 ^ k).log2 = n.log2 + k := by
  have hlow := Nat.log2_self_le (Nat.ne_of_gt hn)
  have hhigh := @Nat.lt_log2_self n
  refine (Nat.log2_eq_iff (Nat.ne_of_gt (Nat.mul_pos hn (Nat.two_pow_pos k)))).2 ⟨?_, ?_⟩
  · rw [Nat.pow_add]
    exact Nat.mul_le_mul_right _ hlow
  · rw [Nat.add_right_comm, Nat.pow_add]
    exact Nat.mul_lt_mul_of_pos_right hhigh (Nat.two_pow_pos k)

/-- However far a natural number is scaled before it is rounded, the outcome is the same. -/
theorem rounds_scaled (s : Sign) {n : Nat} (hn : 0 < n) (hl : n.log2 ≤ 1022) {k : Nat}
    (hk : 52 ≤ n.log2 + k) :
    Rounds (roundWithAccuracy Format.binary64 s (n * 2 ^ k) (-(k : Int)) .exact) s
      (magnitude n) := by
  have hlog := log2_scale hn k
  have h := roundWithAccuracy_exact s (hlog ▸ hk) (e := -(k : Int)) (by omega) (by omega)
  have hplace : ((n * 2 ^ k).log2 + -(k : Int) + 1022).toNat = n.log2 + 1022 := by omega
  -- Half to even, scaled down to what the two have in common.
  have heven : halfEven (n * 2 ^ k) ((n * 2 ^ k).log2 - 52) =
      halfEven (n * 2 ^ 52) n.log2 := by
    rw [hlog, ← halfEven_scale (n * 2 ^ k) _ 52, ← halfEven_scale (n * 2 ^ 52) _ k,
      Nat.mul_right_comm]
    congr 1
    omega
  rwa [hplace, heven, ← magnitude_of_pos hn] at h

theorem Rounds.mul_one {u : UnpackedFloat} {bits : Nat} (h : Rounds u .positive bits)
    (hb : bits < 2045 * 2 ^ 52) :
    Rounds (UnpackedFloat.mul Format.binary64 u (.finite .positive (2 ^ 52) (-52) (by decide)))
      .positive bits := by
  obtain ⟨m, e, hm, rfl, hnormal, rfl⟩ := h
  have hleast := hnormal.least
  have hmost : (e + 1074).toNat < 2045 := by
    unfold place at hb
    omega
  have hlog : (m * 2 ^ 52).log2 = 104 := by rw [log2_scale hm, hnormal.log2]
  change Rounds (roundWithAccuracy Format.binary64 .positive (m * 2 ^ 52) (e + -52) .exact) _ _
  have h := roundWithAccuracy_exact .positive (m := m * 2 ^ 52) (by omega) (e := e + -52)
    (by omega) (by omega)
  have hplace : (((m * 2 ^ 52).log2 : Int) + (e + -52) + 1022).toNat = (e + 1074).toNat := by omega
  rwa [hplace, hlog, halfEven_exact] at h

theorem rounds_ofNat {n : Nat} (hn : 0 < n) (hl : n.log2 ≤ 52) :
    Rounds (UnpackedFloat.ofNat Format.binary64 n) .positive (magnitude n) := by
  unfold UnpackedFloat.ofNat UnpackedFloat.ofInt UnpackedFloat.normalize
  rw [Int.compare_eq_gt.2 (by omega)]
  dsimp only
  unfold UnpackedFloat.round decreaseExponent
  rw [targetExponent_eq, totalExponent, Int.toNat_natCast]
  have hshift : (0 - max ((n.log2 : Int) + 1 + 0 - 53) (-1074)).toNat = 52 - n.log2 := by omega
  dsimp only
  rw [hshift, Int.zero_sub, Nat.shiftLeft_eq]
  exact rounds_scaled .positive hn (by omega) (by omega)

theorem rounds_ofScientific {n : Nat} (hn : 0 < n) (hl : n.log2 ≤ 1022) :
    Rounds (UnpackedFloat.ofScientific Format.binary64 n 0) .positive (magnitude n) := by
  have hbits : Format.binary64.mantissaBits = 53 := by decide
  have hlarge : ¬ (0 : Int) < -((2 : Int) ^ Format.binary64.exponentBits + n.log2) := by
    change ¬ (0 : Int) < -(2 ^ 11 + n.log2)
    omega
  unfold UnpackedFloat.ofScientific
  rw [dif_neg (Nat.ne_of_gt hn), if_neg (by decide), if_neg hlarge, if_pos (by decide)]
  simp only [UnpackedFloat.mul, hbits, Int.toNat_zero, Nat.pow_zero, Nat.mul_one, Int.add_zero,
    Nat.shiftLeft_eq]
  exact rounds_scaled .positive hn hl (by omega)

theorem toModel_ofNat {n : Nat} (hn : 0 < n) (hl : n.log2 < 64) :
    ∃ u, (Float.ofNat n).toModel = Float.Model.pack u ∧ Rounds u .positive (magnitude n) := by
  change ∃ u, (Float.ofScientific n false 0).toModel = _ ∧ _
  unfold Float.ofScientific
  by_cases hsmall : n < 2 ^ 53
  · have hlog : n.log2 < 53 := (Nat.log2_lt (Nat.ne_of_gt hn)).2 hsmall
    have hword : n.toUInt64.toNat = n := Nat.mod_eq_of_lt (by omega)
    obtain ⟨m, e, hm, hu, hnormal, hplace⟩ := rounds_ofNat hn (by omega)
    have hfloat : n.toUInt64.toFloat.toModel.unpack = .finite .positive m e hm := by
      change UnpackedFloat.unpack Format.binary64 (UnpackedFloat.pack Format.binary64
        (UnpackedFloat.ofNat Format.binary64 n.toUInt64.toNat)) = _
      rw [hword, hu, unpack_pack .positive hm hnormal]
    have hone : (Float.ofBits 0x3FF0000000000000).toModel.unpack =
        .finite .positive (2 ^ 52) (-52) (by decide) := rfl
    have hbound := (magnitude_bounds hn).2
    rw [dif_pos ⟨hsmall, by decide⟩, if_neg Bool.false_ne_true]
    refine ⟨UnpackedFloat.mul Format.binary64 n.toUInt64.toFloat.toModel.unpack
      (Float.ofBits 0x3FF0000000000000).toModel.unpack, rfl, ?_⟩
    rw [hfloat, hone]
    exact Rounds.mul_one ⟨m, e, hm, rfl, hnormal, hplace⟩ (by omega)
  · rw [dif_neg fun h => hsmall h.1]
    exact ⟨_, rfl, rounds_ofScientific hn (by omega)⟩

theorem toNat_ofNat {n : Nat} (hn : n < 2 ^ 64) : (ofNat n).bits.toNat = magnitude n := by
  change (Float.ofNat n).toModel.toBits.toNat = magnitude n
  rcases Nat.eq_zero_or_pos n with rfl | hpos
  · rfl
  · obtain ⟨u, hu, m, e, hm, rfl, hnormal, hplace⟩ :=
      toModel_ofNat hpos ((Nat.log2_lt (Nat.ne_of_gt hpos)).2 hn)
    rw [hu]
    change (UnpackedFloat.pack Format.binary64 (.finite .positive m e hm)).toNat = _
    rw [toNat_pack .positive hm hnormal, hplace]
    exact Nat.zero_add _

theorem toNat_ofInteger (i : Int64) :
    (ofInteger i).bits.toNat = (if i.toInt < 0 then 2 ^ 63 else 0) + magnitude i.toInt.natAbs := by
  change (Float.ofInt i.toInt).toModel.toBits.toNat = _
  have hlow := Int64.le_toInt i
  have hhigh := Int64.toInt_lt i
  generalize i.toInt = n at hlow hhigh ⊢
  cases n with
  | ofNat k =>
    have hnonneg : ¬ Int.ofNat k < 0 := Int.not_lt.2 (Int.natCast_nonneg k)
    rw [if_neg hnonneg, Nat.zero_add]
    exact toNat_ofNat (by change (k : Int) < _ at hhigh; omega)
  | negSucc k =>
    rw [if_pos (Int.negSucc_lt_zero k)]
    change (Float.ofNat (k + 1)).neg.toModel.toBits.toNat = 2 ^ 63 + magnitude (k + 1)
    obtain ⟨u, hu, m, e, hm, rfl, hnormal, hplace⟩ :=
      toModel_ofNat (Nat.succ_pos k) ((Nat.log2_lt (Nat.succ_ne_zero k)).2 (by omega))
    change (UnpackedFloat.pack Format.binary64 (Float.ofNat (k + 1)).toModel.unpack.neg).toNat = _
    have hunpack : (Float.ofNat (k + 1)).toModel.unpack = .finite .positive m e hm := by
      rw [hu]
      exact unpack_pack .positive hm hnormal
    rw [hunpack]
    change (UnpackedFloat.pack Format.binary64 (.finite .negative m e hm)).toNat = _
    rw [toNat_pack .negative hm hnormal, hplace]
    rfl

theorem magnitude_mono {m n : Nat} (h : m ≤ n) : magnitude m ≤ magnitude n := by
  rcases Nat.eq_zero_or_pos m with rfl | hm
  · exact Nat.zero_le _
  · have hn : 0 < n := by omega
    have hlog : m.log2 ≤ n.log2 :=
      (Nat.le_log2 (Nat.ne_of_gt hn)).2 ((Nat.log2_self_le (Nat.ne_of_gt hm)).trans h)
    rcases Nat.eq_or_lt_of_le hlog with heq | hlt
    · rw [magnitude_of_pos hm, magnitude_of_pos hn, heq]
      exact Nat.add_le_add_left (halfEven_mono (Nat.mul_le_mul_right _ h) _) _
    · -- The bits of the lower power of two end where those of the next begin.
      have hm' := (magnitude_bounds hm).2
      have hn' := (magnitude_bounds hn).1
      omega

theorem magnitude_lt {m n : Nat} (h : m < n) (hn : n ≤ 2 ^ 53) : magnitude m < magnitude n := by
  have hn0 : 0 < n := by omega
  have hpos := (magnitude_bounds hn0).1
  rcases Nat.eq_zero_or_pos m with rfl | hm
  · rw [magnitude, if_pos rfl]
    omega
  · have hlog : m.log2 ≤ n.log2 :=
      (Nat.le_log2 (Nat.ne_of_gt hn0)).2 ((Nat.log2_self_le (Nat.ne_of_gt hm)).trans h.le)
    have hsmall : m.log2 ≤ 52 := by
      have := (Nat.log2_lt (Nat.ne_of_gt hm)).2 (show m < 2 ^ 53 by omega)
      omega
    have exact {k : Nat} (hk : k.log2 = m.log2) :
        halfEven (k * 2 ^ 52) m.log2 = k * 2 ^ (52 - m.log2) := by
      have hsplit : 2 ^ 52 = 2 ^ (52 - m.log2) * 2 ^ m.log2 := by
        rw [← Nat.pow_add]
        congr 1
        omega
      rw [hsplit, ← Nat.mul_assoc, halfEven_exact]
    rcases Nat.eq_or_lt_of_le hlog with heq | hlt
    · rw [magnitude_of_pos hm, magnitude_of_pos hn0, ← heq, exact rfl, exact heq.symm]
      exact Nat.add_lt_add_left (Nat.mul_lt_mul_of_pos_right h (Nat.two_pow_pos _)) _
    · have hroom : m * 2 ^ (52 - m.log2) < 2 ^ 53 := by
        have hsplit : 2 ^ 53 = 2 ^ (m.log2 + 1) * 2 ^ (52 - m.log2) := by
          rw [← Nat.pow_add]
          congr 1
          omega
        rw [hsplit]
        exact Nat.mul_lt_mul_of_pos_right Nat.lt_log2_self (Nat.two_pow_pos _)
      rw [magnitude_of_pos hm, exact rfl]
      omega

theorem magnitude_natAbs_lt (i : Int64) : magnitude i.toInt.natAbs < 2047 * 2 ^ 52 := by
  have hlow := Int64.le_toInt i
  have hhigh := Int64.toInt_lt i
  rcases Nat.eq_zero_or_pos i.toInt.natAbs with hz | hpos
  · rw [hz]
    decide
  · have hlog : i.toInt.natAbs.log2 < 64 :=
      (Nat.log2_lt (Nat.ne_of_gt hpos)).2 (show i.toInt.natAbs < 2 ^ 64 by omega)
    have := (magnitude_bounds hpos).2
    omega

theorem isNaN_ofInteger (i : Int64) : (ofInteger i).isNaN = false := by
  have hbits := toNat_ofInteger i
  have hlt := magnitude_natAbs_lt i
  refine Bool.eq_false_iff.2 fun h => ?_
  have := (isNaN_iff _).1 h
  split at hbits <;> omega

theorem isZero_ofInteger (i : Int64) : (ofInteger i).isZero = true ↔ i = 0 := by
  have hbits := toNat_ofInteger i
  have hlt := magnitude_natAbs_lt i
  rw [isZero_iff]
  constructor
  · intro h
    have hmagnitude : magnitude i.toInt.natAbs = 0 := by split at hbits <;> omega
    have hz : i.toInt.natAbs = 0 := by
      by_contra hne
      have := (magnitude_bounds (Nat.pos_of_ne_zero hne)).1
      omega
    exact Int64.toInt_inj.1 (show i.toInt = 0 by omega)
  · rintro rfl
    decide

theorem order_isLE_iff (x y : Number) :
    (order x y).isLE ↔ (orderKey x).toNat ≤ (orderKey y).toNat := by
  rw [order, Std.isLE_compare, UInt64.le_iff_toNat_le]

/-- A greater integer has no smaller number. -/
theorem order_ofInteger {i j : Int64} (h : i.toInt ≤ j.toInt) :
    (order (ofInteger i) (ofInteger j)).isLE := by
  have hi := toNat_ofInteger i
  have hj := toNat_ofInteger j
  have hilt := magnitude_natAbs_lt i
  have hjlt := magnitude_natAbs_lt j
  rw [order_isLE_iff, toNat_orderKey, toNat_orderKey]
  by_cases hneg : j.toInt < 0
  · have hmono := magnitude_mono (show j.toInt.natAbs ≤ i.toInt.natAbs by omega)
    rw [if_pos (by omega)] at hi hj
    rw [if_pos (by omega), if_pos (by omega)]
    omega
  · rw [if_neg hneg] at hj
    rw [if_neg (show ¬ 2 ^ 63 ≤ (ofInteger j).bits.toNat by omega)]
    by_cases hneg' : i.toInt < 0
    · rw [if_pos hneg'] at hi
      rw [if_pos (by omega)]
      omega
    · have hmono := magnitude_mono (show i.toInt.natAbs ≤ j.toInt.natAbs by omega)
      rw [if_neg hneg'] at hi
      rw [if_neg (by omega)]
      omega

theorem ofInteger_inj {i j : Int64} (hi : i.toInt.natAbs ≤ 2 ^ 53) (hj : j.toInt.natAbs ≤ 2 ^ 53) :
    ofInteger i = ofInteger j ↔ i = j := by
  refine ⟨fun h => Int64.toInt_inj.1 ?_, fun h => by rw [h]⟩
  have hbits := toNat_ofInteger i
  rw [h, toNat_ofInteger j] at hbits
  have hilt := magnitude_natAbs_lt i
  have hjlt := magnitude_natAbs_lt j
  have hsize : i.toInt.natAbs = j.toInt.natAbs := by
    by_contra hne
    rcases Nat.lt_or_gt_of_ne hne with hlt | hlt
    · have := magnitude_lt hlt hj
      split at hbits <;> split at hbits <;> omega
    · have := magnitude_lt hlt hi
      split at hbits <;> split at hbits <;> omega
  split at hbits <;> split at hbits <;> omega

end Tabular.Number
