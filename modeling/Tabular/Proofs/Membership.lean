import Tabular.Proofs.Comparing
import Tabular.Proofs.Safety.Operations

set_option autoImplicit false

namespace Tabular

/-- Different numbers that are the same key: both zeros or both NaNs. -/
def Number.Alike (x y : Number) : Prop :=
  x ≠ y ∧ (x.isZero = true ∧ y.isZero = true ∨ x.isNaN = true ∧ y.isNaN = true)

theorem Number.same_iff_order (x y : Number) : x.same y = true ↔ order x y = .eq ∨ Alike x y := by
  rw [order_eq_iff, same_iff, Alike]
  by_cases hxy : x = y
  · simp [hxy]
  · constructor
    · intro h
      have hn : x.isNaN = y.isNaN := by rw [← isNaN_canonical x, h, isNaN_canonical]
      have hz : x.isZero = y.isZero := by rw [← isZero_canonical x, h, isZero_canonical]
      refine .inr ⟨hxy, ?_⟩
      by_contra hother
      -- What is neither a zero nor a NaN is its own canonical form.
      have hyz : y.isZero = false := Bool.eq_false_iff.2 fun h => hother (.inl ⟨hz.trans h, h⟩)
      have hyn : y.isNaN = false := Bool.eq_false_iff.2 fun h => hother (.inr ⟨hn.trans h, h⟩)
      exact hxy (by simpa [canonical, hn, hz, hyn, hyz] using h)
    · rintro (h | ⟨-, ⟨hx, hy⟩ | ⟨hx, hy⟩⟩)
      · exact absurd h hxy
      · simp [canonical, hx, hy, isNaN_of_isZero]
      · simp [canonical, hx, hy]

theorem Number.not_alike_ofInteger (i j : Int64) : ¬ Alike (ofInteger i) (ofInteger j) := by
  rintro ⟨hne, ⟨hi, hj⟩ | ⟨hi, -⟩⟩
  · exact hne (by rw [(isZero_ofInteger i).1 hi, (isZero_ofInteger j).1 hj])
  · rw [isNaN_ofInteger] at hi
    cases hi

namespace Value

variable {x v : Value}

/-- Different integers with one number, or values whose numbers are both zeros or both NaNs. -/
def Blurred (x v : Value) : Prop :=
  (∃ i j : Int64, x = .integer i ∧ v = .integer j ∧ i ≠ j ∧
    Number.ofInteger i = Number.ofInteger j) ∨
  ∃ p q, x.number? = some p ∧ v.number? = some q ∧ Number.Alike p q

theorem Blurred.exists_number (h : x.Blurred v) :
    ∃ p q, x.number? = some p ∧ v.number? = some q := by
  rcases h with ⟨i, j, rfl, rfl, _⟩ | ⟨p, q, hp, hq, _⟩
  · exact ⟨_, _, rfl, rfl⟩
  · exact ⟨p, q, hp, hq⟩

theorem Blurred.order_ne (h : x.Blurred v) : x.order v ≠ .eq := by
  rcases h with ⟨i, j, rfl, rfl, hne, -⟩ | ⟨p, q, hp, hq, ha⟩
  · exact fun h => hne (Value.integer.inj (eq_of_order_eq rfl rfl h))
  · rcases integers_or_not x v with ⟨i, j, rfl, rfl⟩ | hi
    · cases hp
      cases hq
      exact absurd ha (Number.not_alike_ofInteger i j)
    · rw [order_of_number hp hq hi]
      exact fun h => ha.1 ((Number.order_eq_iff p q).1 h)

theorem widened_of_number {p : Number} (h : x.number? = some p) : x.widened = .number p := by
  cases x <;> cases h <;> rfl

theorem widened_of_not_numeric (h : x.number? = none) : x.widened = x := by
  cases x <;> first | rfl | cases h

theorem widened_same_number {p q : Number} (hp : x.number? = some p) (hq : v.number? = some q) :
    v.widened.same x.widened = true ↔ x.order v = .eq ∨ x.Blurred v := by
  have hsame : v.widened.same x.widened = true ↔ p.same q = true := by
    rw [widened_of_number hp, widened_of_number hq, Number.same_iff]
    exact Number.same_iff.trans eq_comm
  have halike : (∃ p' q', x.number? = some p' ∧ v.number? = some q' ∧ p'.Alike q') ↔
      p.Alike q := by
    simp [hp, hq]
  rw [hsame, Number.same_iff_order, Blurred, halike]
  rcases integers_or_not x v with ⟨i, j, rfl, rfl⟩ | hi
  · cases hp
    cases hq
    have horder : (integer i).order (.integer j) = .eq ↔ i = j :=
      ⟨fun h => Value.integer.inj (eq_of_order_eq rfl rfl h), fun h => by rw [h, order_self]⟩
    rw [Number.order_eq_iff, horder]
    by_cases hij : i = j
    · simp [hij]
    · simp [hij, Number.not_alike_ofInteger]
  · have hnot : ¬ ∃ i j : Int64, x = .integer i ∧ v = .integer j ∧ i ≠ j ∧
        Number.ofInteger i = Number.ofInteger j := by
      rintro ⟨i, j, rfl, rfl, -⟩
      simp [integer?] at hi
    rw [order_of_number hp hq hi]
    simp only [hnot, false_or]

theorem widened_same_type {t : ScalarType} (ht : t.isNumeric = false) (hx : x.type? = some t)
    (hv : v.type? = some t) : v.widened.same x.widened = true ↔ x.order v = .eq ∨ x.Blurred v := by
  have hother {w : Value} (hw : w.type? = some t) : w.number? = none ∧ w.canonical = w := by
    cases w <;> cases hw <;> first | exact ⟨rfl, rfl⟩ | cases ht
  have hnot : ¬ x.Blurred v := fun h => by
    obtain ⟨p, _, hp, _⟩ := h.exists_number
    rw [(hother hx).1] at hp
    cases hp
  rw [widened_of_not_numeric (hother hx).1, widened_of_not_numeric (hother hv).1, same_iff,
    (hother hx).2, (hother hv).2]
  refine ⟨fun h => .inl (by rw [h, order_self]), fun h => ?_⟩
  exact (eq_of_order_eq hx hv (h.resolve_right hnot)).symm

theorem exists_type (h : v.isNull = false) : ∃ t, v.type? = some t := by
  cases v <;> first | exact ⟨_, rfl⟩ | cases h

theorem widened_same_iff {operator : String} {t : Option ScalarType} (hx : x.isNull = false)
    (h : Typing.common operator x.type? v.type? = .ok t) :
    v.widened.same x.widened = true ↔ v.isNull = false ∧ x.order v = .eq ∨ x.Blurred v := by
  obtain ⟨a, ha⟩ := exists_type hx
  cases hv : v.isNull with
  | true =>
    cases v <;> cases hv
    refine iff_of_false (fun h => ?_) ?_
    · cases x <;> first | cases hx; done | cases h
    · rintro (⟨h, -⟩ | h)
      · cases h
      · obtain ⟨_, _, _, hq⟩ := h.exists_number
        cases hq
  | false =>
    obtain ⟨b, hb⟩ := exists_type hv
    rw [ha, hb] at h
    simp only [true_and]
    rcases Typing.common_ok h with ⟨hn, _⟩ | ⟨hn, _⟩ | ⟨heq, _⟩ | ⟨_, _, ⟨⟩, ⟨⟩, hna, hnb, _⟩
    · cases hn
    · cases hn
    · cases hn : a.isNumeric with
      | true =>
        obtain ⟨p, hp⟩ := number_of_type ha hn
        obtain ⟨q, hq⟩ := number_of_type (hb.trans heq.symm) hn
        exact widened_same_number hp hq
      | false => exact widened_same_type hn ha (hb.trans heq.symm)
    · obtain ⟨p, hp⟩ := number_of_type ha hna
      obtain ⟨q, hq⟩ := number_of_type hb hnb
      exact widened_same_number hp hq

end Value

namespace Operation

/-- The equality built for the operand's type and the value's gives true. -/
def EqualTo (today : Date) (operand : Option ScalarType) (x v : Value) : Prop :=
  ∃ op, binary (.compare .eq) operand v.type? = .ok op ∧
    op.call today [x, v] = .ok (.boolean true)

theorem checkMembers_ok {operator : String} {operand : Option ScalarType} {set : List Value}
    (h : checkMembers operator operand set = .ok ()) {v : Value} (hv : v ∈ set) :
    ∃ t, Typing.common operator operand v.type? = .ok t := by
  induction set with
  | nil => cases hv
  | cons w set ih =>
    obtain ⟨t, ht, h⟩ := ok_of_bind h
    rcases List.mem_cons.1 hv with rfl | hv
    · exact ⟨t, ht⟩
    · exact ih h hv

theorem common_symbol {operator : String} (other : String) {l r t : Option ScalarType}
    (h : Typing.common operator l r = .ok t) : Typing.common other l r = .ok t := by
  unfold Typing.common at h ⊢
  split at h
  · exact h
  · exact h
  · split at h
    · rename_i hab
      rwa [if_pos hab]
    · rename_i hab
      split at h
      · rename_i hn
        rwa [if_neg hab, if_pos hn]
      · cases h

theorem binary_compare {operator : String} (c : Comparison) {l r t : Option ScalarType}
    (h : Typing.common operator l r = .ok t) : binary (.compare c) l r = .ok (.compare c) := by
  change (Typing.common c.symbol l r >>= fun _ => pure (compare c)) = _
  rw [common_symbol c.symbol h]
  rfl

theorem equalTo_iff {today : Date} {operator : String} {operand t : Option ScalarType} {x v : Value}
    (hx : x.isNull = false) (h : Typing.common operator operand v.type? = .ok t) :
    EqualTo today operand x v ↔ v.isNull = false ∧ x.order v = .eq := by
  have hcall : (compare .eq).call today [x, v] =
      if v.isNull then .ok .null else .ok (.boolean (x.order v == .eq)) := by
    simp [call, isStrict, compute, Comparison.holds, hx]
  unfold EqualTo
  rw [binary_compare .eq h]
  simp only [Except.ok.injEq, exists_eq_left', hcall]
  cases hv : v.isNull with
  | true => simp
  | false => simp

/-- Wherever a membership is accepted so is the equality with each value of the set. A value is in
    the set exactly if it is equal to one of its values or blurred with one, and these two exclude
    each other; it is not in the set exactly if it is not in it. -/
theorem call_memberOf {operand : Option ScalarType} {set : List Value} {negated : Bool}
    {op : Operation} (h : memberOf operand set negated = .ok op) (today : Date) {x : Value}
    (hx : x.Fits operand) (hn : x.isNull = false) :
    (∀ v ∈ set, binary (.compare .eq) operand v.type? = .ok (.compare .eq)) ∧
    (∀ v ∈ set, EqualTo today operand x v → ¬ x.Blurred v) ∧
    ∃ found : Bool,
      (found = true ↔ (∃ v ∈ set, EqualTo today operand x v) ∨ ∃ v ∈ set, x.Blurred v) ∧
      op.call today [x] = .ok (.boolean (if negated then !found else found)) := by
  obtain ⟨_, hc, h⟩ := ok_of_bind h
  cases eq_of_pure_ok h
  have hcommon := fun v hv => checkMembers_ok (v := v) hc hv
  have hequal : ∀ v ∈ set, (EqualTo today operand x v ↔ v.isNull = false ∧ x.order v = .eq) :=
    fun v hv => (hcommon v hv).elim fun t ht => equalTo_iff hn ht
  refine ⟨fun v hv => (hcommon v hv).elim fun t ht => binary_compare .eq ht, fun v hv he hb => ?_,
    set.any fun v => v.widened.same x.widened, ?_, ?_⟩
  · exact hb.order_ne ((hequal v hv).1 he).2
  · have htype := hx.type_eq hn
    have hwidened : ∀ v ∈ set, (v.widened.same x.widened = true ↔
        EqualTo today operand x v ∨ x.Blurred v) := fun v hv => by
      obtain ⟨t, ht⟩ := hcommon v hv
      rw [← htype] at ht
      rw [hequal v hv]
      exact Value.widened_same_iff hn ht
    rw [List.any_eq_true, ← exists_or]
    refine exists_congr fun v => ?_
    rw [← and_or_left]
    exact and_congr_right (hwidened v)
  · have hcall : (member set negated).call today [x] = .ok (evalMember set negated x) := by
      simp [call, compute, hn]
    rw [hcall, evalMember]
    cases negated <;> simp

theorem call_memberOf_neighbour :
    ∃ op, memberOf (some .integer) [.integer 9007199254740992, .number 2.5] true = .ok op ∧
      op.call .epoch [.integer 9007199254740993] = .ok (.boolean false) := by
  have hop : memberOf (some .integer) [.integer 9007199254740992, .number 2.5] true = .ok _ := rfl
  have hfits : (Value.integer 9007199254740993).Fits (some .integer) := rfl
  have hblurred : (Value.integer 9007199254740993).Blurred (.integer 9007199254740992) :=
    .inl ⟨_, _, rfl, rfl, by decide, by decide +kernel⟩
  obtain ⟨-, -, found, hfound, hcall⟩ := call_memberOf hop .epoch hfits rfl
  rw [hfound.2 (.inr ⟨_, List.mem_cons_self, hblurred⟩)] at hcall
  exact ⟨_, hop, hcall⟩

/-- The neighbour is found, and equality tells the two apart. -/
theorem memberOf_not_equal :
    ∃ op, memberOf (some .integer) [.integer 9007199254740992] false = .ok op ∧
      op.call .epoch [.integer 9007199254740993] = .ok (.boolean true) ∧
      binary (.compare .eq) (some .integer) (some .integer) = .ok (.compare .eq) ∧
      (compare .eq).call .epoch [.integer 9007199254740993, .integer 9007199254740992] =
        .ok (.boolean false) := by
  refine ⟨_, rfl, ?_, rfl, ?_⟩
  · decide +kernel
  · decide +kernel

end Operation
end Tabular
