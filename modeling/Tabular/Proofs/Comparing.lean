import Tabular.Proofs.Number.Nearest
import Tabular.Proofs.Window.Ordering

set_option autoImplicit false

/-!
# Comparing values of different types

Values of unrelated types are in the order of their types, and values of one type in the order of
what they carry. Integers are compared exactly with each other, but with a number through the
number nearest to them. So a number can be equal to two integers of which one is greater, and in
the order of values that is all that keeps it from being a total preorder. It takes integers of more
than 53 bits.
-/
namespace Tabular.Value

open Sorting (OrderedOn)

variable {a b c : Value}

theorem eq_of_order_eq {t : ScalarType} (ha : a.type? = some t) (hb : b.type? = some t)
    (h : a.order b = .eq) : a = b := by
  have hkey {α : Type} [Ord α] [Std.LawfulEqOrd α] {x y : α} (h : compare x y = .eq) : x = y :=
    Std.LawfulEqCmp.eq_of_compare h
  cases a <;> cases ha <;> cases b <;> cases hb
  · exact congrArg _ (hkey h)
  · exact congrArg _ (Int64.toInt_inj.1 (hkey h))
  · exact congrArg _ ((Number.order_eq_iff _ _).1 h)
  · rename_i p q
    cases p <;> cases q <;> first | rfl | cases h
  · rename_i d e
    obtain ⟨hyear, h⟩ := Ordering.then_eq_eq.1 h
    obtain ⟨hmonth, hday⟩ := Ordering.then_eq_eq.1 h
    have hdate := Date.ofFields?_fields d
    rw [hkey hyear, hkey hmonth, hkey hday, Date.ofFields?_fields e] at hdate
    exact congrArg _ (Option.some.inj hdate).symm
  · rename_i p q
    cases p <;> cases q <;> first | rfl | cases h

theorem eq_of_conforms {t : ScalarType} (ha : a.conforms t = true) (hb : b.conforms t = true)
    (h : a.order b = .eq) : a = b := by
  rcases conforms_iff.1 ha with rfl | ha
  · rw [← order_swap, Ordering.swap_eq_eq] at h
    exact (eq_null_of_isLE (h ▸ rfl)).symm
  · rcases conforms_iff.1 hb with rfl | hb
    · exact eq_null_of_isLE (h ▸ rfl)
    · exact eq_of_order_eq ha hb h

theorem order_self (a : Value) : a.order a = .eq :=
  Ordering.eq_eq_of_eq_swap (order_swap a a).symm

theorem order_of_rank_lt (h : a.rank < b.rank) : a.order b = .lt := by
  cases a <;> cases b <;> first | rfl | simp [rank] at h

theorem rank_le_of_isLE (h : (a.order b).isLE) : a.rank ≤ b.rank := by
  by_contra hlt
  rw [← order_swap, order_of_rank_lt (Nat.lt_of_not_le hlt)] at h
  cases h

theorem type_eq_of_rank_eq (h : a.rank = b.rank) (hn : a.rank ≠ 2) : a.type? = b.type? := by
  cases a <;> cases b <;> first | rfl | simp [rank] at h hn

theorem exists_number (h : a.rank = 2) : ∃ x, a.number? = some x := by
  cases a <;> first | exact ⟨_, rfl⟩ | cases h

theorem integers_or_not (a b : Value) : (∃ i j, a = .integer i ∧ b = .integer j) ∨
    (a.integer? = none ∨ b.integer? = none) := by
  cases a <;> cases b <;> simp [integer?]

theorem order_of_number {x y : Number} (ha : a.number? = some x) (hb : b.number? = some y)
    (hi : a.integer? = none ∨ b.integer? = none) : a.order b = Number.order x y := by
  cases a <;> cases ha <;> cases b <;> cases hb <;> first | rfl | simp [integer?] at hi

theorem number_isLE {x y : Number} (ha : a.number? = some x) (hb : b.number? = some y)
    (h : (a.order b).isLE) : (Number.order x y).isLE := by
  rcases integers_or_not a b with ⟨i, j, rfl, rfl⟩ | hi
  · cases ha
    cases hb
    exact Number.order_ofInteger (Std.isLE_compare.1 h)
  · rwa [← order_of_number ha hb hi]

/-- The last is an integer below the first, and both are nearest to the number between them. -/
def Merged (a b c : Value) : Prop :=
  ∃ i j : Int64, a = .integer i ∧ b = .number (Number.ofInteger i) ∧ c = .integer j ∧
    j.toInt < i.toInt ∧ Number.ofInteger i = Number.ofInteger j

theorem Merged.isLE (h : Merged a b c) : (a.order b).isLE ∧ (b.order c).isLE := by
  obtain ⟨i, j, rfl, rfl, rfl, _, heq⟩ := h
  have hself (x : Number) : (Number.order x x).isLE := by
    rw [(Number.order_eq_iff x x).2 rfl]
    rfl
  refine ⟨hself _, ?_⟩
  change (Number.order (Number.ofInteger i) (Number.ofInteger j)).isLE
  rw [heq]
  exact hself _

theorem Merged.not_isLE (h : Merged a b c) : ¬ (a.order c).isLE := by
  obtain ⟨i, j, rfl, -, rfl, hlt, -⟩ := h
  change ¬ (compare i.toInt j.toInt).isLE
  rw [Std.isLE_compare]
  omega

theorem isLE_trans_number {x y z : Number} (ha : a.number? = some x) (hb : b.number? = some y)
    (hc : c.number? = some z) (hm : ¬ Merged a b c) (hab : (a.order b).isLE)
    (hbc : (b.order c).isLE) : (a.order c).isLE := by
  have horder := Number.order_orderedOn fun _ => True
  have hxy := number_isLE ha hb hab
  have hyz := number_isLE hb hc hbc
  have hxz := horder.trans x y z trivial trivial trivial hxy hyz
  rcases integers_or_not a c with ⟨i, j, rfl, rfl⟩ | hi
  · -- Integers around a number are in order unless the numbers of both are that number.
    cases ha
    cases hc
    by_contra hgt
    have hlt : j.toInt < i.toInt := by
      by_contra hle
      exact hgt (Std.isLE_compare.2 (Int.not_lt.1 hle))
    cases b with
    | integer k =>
      have hik : i.toInt ≤ k.toInt := Std.isLE_compare.1 hab
      have hkj : k.toInt ≤ j.toInt := Std.isLE_compare.1 hbc
      omega
    | number =>
      cases hb
      have hzx := Number.order_ofInteger (Int.le_of_lt hlt)
      have hyx := horder.trans _ _ _ trivial trivial trivial hyz hzx
      have hx := (Number.order_eq_iff _ _).1 (horder.eq_of_isLE hxy hyx)
      have hz := (Number.order_eq_iff _ _).1 (horder.eq_of_isLE hxz hzx)
      exact hm ⟨i, j, rfl, congrArg _ hx.symm, rfl, hlt, hz⟩
    | _ => cases hb
  · rwa [order_of_number ha hc hi]

theorem isLE_trans (hm : ¬ Merged a b c) (hab : (a.order b).isLE) (hbc : (b.order c).isLE) :
    (a.order c).isLE := by
  have hab' := rank_le_of_isLE hab
  have hbc' := rank_le_of_isLE hbc
  rcases Nat.lt_or_ge a.rank c.rank with hlt | hge
  · rw [order_of_rank_lt hlt]
    rfl
  · have hb : a.rank = b.rank := by omega
    have hc : a.rank = c.rank := by omega
    by_cases hn : a.rank = 2
    · obtain ⟨x, hx⟩ := exists_number hn
      obtain ⟨y, hy⟩ := exists_number (hb ▸ hn)
      obtain ⟨z, hz⟩ := exists_number (hc ▸ hn)
      exact isLE_trans_number hx hy hz hm hab hbc
    · have htb := type_eq_of_rank_eq hb hn
      have htc := type_eq_of_rank_eq hc hn
      cases ht : a.type? with
      | none =>
        cases a <;> first | cases ht; done | exact null_isLE c
      | some t =>
        exact order_trans_of_type ht (htb ▸ ht) (htc ▸ ht) hab hbc

/-- An integer, if the value is one, has at most 53 bits. -/
def Exact (v : Value) : Prop := ∀ i : Int64, v = .integer i → i.toInt.natAbs ≤ 2 ^ 53

theorem not_merged_of_exact (ha : a.Exact) (hc : c.Exact) : ¬ Merged a b c := by
  rintro ⟨i, j, rfl, -, rfl, hlt, heq⟩
  rw [(Number.ofInteger_inj (ha i rfl) (hc j rfl)).1 heq] at hlt
  omega

/-- Among values whose integers have at most 53 bits the order is a total preorder. -/
theorem order_orderedOn_exact : OrderedOn Exact Value.order where
  swap := order_swap
  trans _ _ _ ha _ hc := isLE_trans (not_merged_of_exact ha hc)

/-- Comparing the other way round gives the reverse, a value is equal to itself, and the order is
    transitive but for integers that are merged by the number between them, which takes an integer
    of more than 53 bits. -/
theorem order_trans_iff_not_merged (a b c : Value) :
    (a.order b).swap = b.order a ∧ a.order a = .eq ∧
    (((a.order b).isLE → (b.order c).isLE → (a.order c).isLE) ↔ ¬ Merged a b c) ∧
    (a.Exact → c.Exact → ¬ Merged a b c) := by
  refine ⟨order_swap a b, order_self a, ⟨fun h hm => ?_, isLE_trans⟩, not_merged_of_exact⟩
  exact hm.not_isLE (h hm.isLE.1 hm.isLE.2)

/-- One more than 2 ^ 53 is equal to that number, which is equal to that integer, which is less. -/
theorem not_trans_largeIntegers :
    (integer 9007199254740993).order (.number 9007199254740992.0) = .eq ∧
    (Value.number 9007199254740992.0).order (.integer 9007199254740992) = .eq ∧
    (integer 9007199254740993).order (.integer 9007199254740992) = .gt := by
  decide +kernel

end Tabular.Value
