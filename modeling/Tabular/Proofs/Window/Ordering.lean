import Mathlib.Data.List.Pairwise
import Tabular.Proofs.Safety.Rows
import Tabular.Window.Evaluate

set_option autoImplicit false

namespace Tabular

namespace Sorting

variable {α β : Type}

/-- A total preorder on the elements that satisfy `P`. -/
structure OrderedOn (P : α → Prop) (order : α → α → Ordering) : Prop where
  swap : ∀ a b, (order a b).swap = order b a
  trans : ∀ a b c, P a → P b → P c → (order a b).isLE → (order b c).isLE → (order a c).isLE

namespace OrderedOn

variable {P : α → Prop} {order other : α → α → Ordering}

theorem of_key {γ : Type} [Ord γ] [Std.TransOrd γ] (key : α → γ) :
    OrderedOn P fun a b => compare (key a) (key b) where
  swap _ _ := Std.OrientedCmp.eq_swap.symm
  trans _ _ _ _ _ _ := Std.TransCmp.isLE_trans

theorem comap {Q : β → Prop} {f : β → α} (h : OrderedOn P order) (hf : ∀ b, Q b → P (f b)) :
    OrderedOn Q fun a b => order (f a) (f b) where
  swap a b := h.swap (f a) (f b)
  trans a b c ha hb hc := h.trans (f a) (f b) (f c) (hf a ha) (hf b hb) (hf c hc)

theorem reverse (h : OrderedOn P order) : OrderedOn P fun a b => (order a b).swap where
  swap a b := congrArg Ordering.swap (h.swap a b)
  trans a b c ha hb hc hab hbc := by
    rw [h.swap] at hab hbc ⊢
    exact h.trans c b a hc hb ha hbc hab

theorem self (h : OrderedOn P order) (a : α) : order a a = .eq :=
  Ordering.eq_eq_of_eq_swap (h.swap a a).symm

theorem eq_of_isLE (h : OrderedOn P order) {a b : α} (hab : (order a b).isLE)
    (hba : (order b a).isLE) : order a b = .eq := by
  rw [← h.swap] at hba
  exact Ordering.eq_eq_of_isLE_of_isLE_swap hab hba

theorem isLE_of_ne_lt (h : OrderedOn P order) {a b : α} (hab : order a b ≠ .lt) :
    (order b a).isLE := by
  rw [← h.swap, Ordering.isLE_swap]
  exact Ordering.isGE_iff_ne_lt.2 hab

theorem lex (h : OrderedOn P order) (h' : OrderedOn P other) :
    OrderedOn P fun a b => (order a b).then (other a b) where
  swap a b := by rw [Ordering.swap_then, h.swap, h'.swap]
  trans a b c ha hb hc hab hbc := by
    rw [Ordering.isLE_then_iff_and] at hab hbc ⊢
    obtain ⟨hab, hab'⟩ := hab
    obtain ⟨hbc, hbc'⟩ := hbc
    have hac := h.trans a b c ha hb hc hab hbc
    refine ⟨hac, ?_⟩
    by_cases hlt : order a c = .lt
    · exact .inl hlt
    · -- The outer two are equal in the first order, so the one between them is equal to both.
      have hca := h.isLE_of_ne_lt hlt
      have heq := h.eq_of_isLE hab (h.trans b c a hb hc ha hbc hca)
      have heq' := h.eq_of_isLE hbc (h.trans c a b hc ha hb hca hab)
      rw [heq] at hab'
      rw [heq'] at hbc'
      exact .inr (h'.trans a b c ha hb hc (hab'.resolve_left nofun) (hbc'.resolve_left nofun))

end OrderedOn

section
variable {P : α → Prop} {order : α → α → Ordering}

theorem insertDown_pairwise (h : OrderedOn P order) {a : α} (ha : P a) {xs : List α}
    (hxs : ∀ x ∈ xs, P x) (hd : xs.Pairwise fun x y => (order y x).isLE) :
    (insertDown order a xs).Pairwise fun x y => (order y x).isLE := by
  induction xs with
  | nil => exact List.pairwise_singleton _ _
  | cons b rest ih =>
    obtain ⟨hb, hrest⟩ := List.forall_mem_cons.1 hxs
    obtain ⟨hbelow, hd'⟩ := List.pairwise_cons.1 hd
    unfold insertDown
    split
    · rename_i hlt
      refine List.pairwise_cons.2 ⟨fun x hx => ?_, ih hrest hd'⟩
      rcases List.mem_cons.1 ((insertDown_perm order a rest).mem_iff.1 hx) with rfl | hx
      · rw [hlt]
        rfl
      · exact hbelow x hx
    · rename_i hge
      have hba := h.isLE_of_ne_lt hge
      refine List.pairwise_cons.2 ⟨List.forall_mem_cons.2 ⟨hba, fun x hx => ?_⟩, hd⟩
      exact h.trans x b a (hrest x hx) hb ha (hbelow x hx) hba

theorem insertAll_pairwise (h : OrderedOn P order) {sorted xs : List α} (hxs : ∀ x ∈ xs, P x)
    (hsorted : ∀ x ∈ sorted, P x) (hd : sorted.Pairwise fun x y => (order y x).isLE) :
    (insertAll order sorted xs).Pairwise fun x y => (order y x).isLE := by
  induction xs generalizing sorted with
  | nil => exact hd
  | cons a rest ih =>
    obtain ⟨ha, hrest⟩ := List.forall_mem_cons.1 hxs
    refine ih hrest (fun x hx => ?_) (insertDown_pairwise h ha hsorted hd)
    rcases List.mem_cons.1 ((insertDown_perm order a sorted).mem_iff.1 hx) with rfl | hx
    · exact ha
    · exact hsorted x hx

theorem sort_pairwise (h : OrderedOn P order) {xs : List α} (hxs : ∀ x ∈ xs, P x) :
    (sort order xs).Pairwise fun x y => (order x y).isLE :=
  List.pairwise_reverse.2 (insertAll_pairwise h hxs (fun _ hx => nomatch hx) .nil)

/-- Where no two elements are equal only one order is sorted. -/
theorem sort_eq_of_perm (h : OrderedOn P order) {xs ys : List α} (hp : xs.Perm ys)
    (hxs : ∀ x ∈ xs, P x) (hne : xs.Pairwise fun x y => order x y ≠ .eq) :
    sort order xs = sort order ys := by
  have hys : ∀ y ∈ ys, P y := fun y hy => hxs y (hp.mem_iff.2 hy)
  have hperm : (sort order xs).Perm (sort order ys) :=
    (sort_perm order xs).trans (hp.trans (sort_perm order ys).symm)
  have hsymm : Std.Symm fun x y => order x y ≠ .eq :=
    ⟨fun x y hxy he => hxy (by rw [← h.swap, he]; rfl)⟩
  refine List.Perm.eq_of_pairwise ?_ (sort_pairwise h hxs) (sort_pairwise h hys) hperm
  intro a b ha hb hab hba
  by_contra hab'
  have ha := (sort_perm order xs).mem_iff.1 ha
  have hb := hp.mem_iff.2 ((sort_perm order ys).mem_iff.1 hb)
  exact List.Pairwise.forall hne ha hb hab' (h.eq_of_isLE hab hba)

end

theorem insertDown_map (f : β → α) (order : α → α → Ordering) (b : β) (xs : List β) :
    (insertDown (fun x y => order (f x) (f y)) b xs).map f =
      insertDown order (f b) (xs.map f) := by
  induction xs with
  | nil => rfl
  | cons x rest ih =>
    rw [List.map_cons, insertDown, insertDown]
    split
    · rw [List.map_cons, ih]
    · rfl

theorem insertAll_map (f : β → α) (order : α → α → Ordering) (sorted xs : List β) :
    (insertAll (fun x y => order (f x) (f y)) sorted xs).map f =
      insertAll order (sorted.map f) (xs.map f) := by
  induction xs generalizing sorted with
  | nil => rfl
  | cons x rest ih => rw [List.map_cons, insertAll, insertAll, ih, insertDown_map]

theorem sort_map (f : β → α) (order : α → α → Ordering) (xs : List β) :
    (sort (fun x y => order (f x) (f y)) xs).map f = sort order (xs.map f) := by
  rw [sort, List.map_reverse, insertAll_map]
  rfl

end Sorting

open Sorting (OrderedOn)

theorem Number.order_orderedOn (P : Number → Prop) : OrderedOn P Number.order :=
  .of_key Number.orderKey

theorem Period.order_orderedOn (P : Period → Prop) : OrderedOn P Period.order :=
  .of_key Period.rank

theorem Date.order_orderedOn (P : Date → Prop) : OrderedOn P Date.order :=
  .lex (.of_key Date.year) (.lex (.of_key Date.month) (.of_key Date.day))

namespace Value

theorem order_swap (a b : Value) : (a.order b).swap = b.order a := by
  have hkey {α : Type} [Ord α] [Std.TransOrd α] (x y : α) :
      (compare x y).swap = compare y x := Std.OrientedCmp.eq_swap.symm
  cases a <;> cases b <;> first
    | rfl
    | exact hkey _ _
    | exact (Date.order_orderedOn fun _ => True).swap _ _

theorem order_trans_of_type {t : ScalarType} {a b c : Value} (ha : a.type? = some t)
    (hb : b.type? = some t) (hc : c.type? = some t) :
    (a.order b).isLE → (b.order c).isLE → (a.order c).isLE := by
  have carried {α : Type} {order : α → α → Ordering} (h : OrderedOn (fun _ => True) order)
      (x y z : α) : (order x y).isLE → (order y z).isLE → (order x z).isLE :=
    h.trans x y z trivial trivial trivial
  cases a <;> cases ha <;> cases b <;> cases hb <;> cases c <;> cases hc
  · exact carried (.of_key id) _ _ _
  · exact carried (.of_key Int64.toInt) _ _ _
  · exact carried (Number.order_orderedOn _) _ _ _
  · exact carried (.of_key Bool.toNat) _ _ _
  · exact carried (Date.order_orderedOn _) _ _ _
  · exact carried (Period.order_orderedOn _) _ _ _

theorem null_isLE (v : Value) : (Value.null.order v).isLE := by
  cases v <;> rfl

theorem eq_null_of_isLE {v : Value} (h : (v.order .null).isLE) : v = .null := by
  cases v <;> first | rfl | cases h

theorem order_orderedOn (t : ScalarType) :
    OrderedOn (fun v => v.conforms t = true) Value.order where
  swap := order_swap
  trans a b c ha hb hc hab hbc := by
    rcases conforms_iff.1 hc with rfl | hc
    · cases eq_null_of_isLE hbc
      exact hab
    · rcases conforms_iff.1 hb with rfl | hb
      · cases eq_null_of_isLE hab
        exact hbc
      · rcases conforms_iff.1 ha with rfl | ha
        · exact null_isLE c
        · exact order_trans_of_type ha hb hc hab hbc

end Value

namespace Window

theorem sortColumns_ok {s : Schema} {orders : List OrderItem} {columns : SortColumns}
    (h : sortColumns s orders = .ok columns) :
    List.Forall₂ (fun o p => s.indexOf? o.component = some p.1 ∧ p.2 = o.descending) orders
      columns := by
  induction orders generalizing columns with
  | nil =>
    cases h
    exact .nil
  | cons o orders ih =>
    obtain ⟨i, hi, h⟩ := ok_of_bind h
    obtain ⟨rest, hr, h⟩ := ok_of_bind h
    cases eq_of_pure_ok h
    exact .cons ⟨Schema.position_ok.1 hi, rfl⟩ (ih hr)

theorem cell_orderedOn {s : Schema} {n : String} {i : Nat} (h : s.indexOf? n = some i) :
    OrderedOn s.Admits fun r q => (Row.cell r i).order (Row.cell q i) := by
  obtain ⟨c, hc, rfl⟩ := Schema.getElem?_of_indexOf? h
  refine (Value.order_orderedOn c.type).comap fun r hr => ?_
  rw [← Schema.read_of_indexOf? h]
  exact hr.read (List.mem_of_getElem? hc)

theorem compareRows_orderedOn {s : Schema} {orders : List OrderItem} {columns : SortColumns}
    (h : sortColumns s orders = .ok columns) : OrderedOn s.Admits (compareRows columns) := by
  have hcolumns := sortColumns_ok h
  clear h
  induction hcolumns with
  | nil => exact ⟨fun _ _ => rfl, fun _ _ _ _ _ _ _ _ => rfl⟩
  | @cons _ p _ _ hp _ ih =>
    obtain ⟨i, descending⟩ := p
    have hcell := cell_orderedOn hp.1
    cases descending with
    | false => exact hcell.lex ih
    | true => exact hcell.reverse.lex ih

theorem compareRows_eq_iff {s : Schema} {orders : List OrderItem} {columns : SortColumns}
    (h : sortColumns s orders = .ok columns) (r q : Row) :
    compareRows columns r q = .eq ↔
      ∀ o ∈ orders, (s.read r o.component).order (s.read q o.component) = .eq := by
  have hcolumns := sortColumns_ok h
  clear h
  induction hcolumns with
  | nil => exact ⟨fun _ _ ho => absurd ho List.not_mem_nil, fun _ => rfl⟩
  | @cons o p _ _ hp _ ih =>
    obtain ⟨hi, _⟩ := hp
    rw [List.forall_mem_cons, compareRows, Ordering.then_eq_eq, Schema.read_of_indexOf? hi,
      Schema.read_of_indexOf? hi]
    refine and_congr ?_ ih
    split
    · exact Ordering.swap_eq_eq
    · rfl

end Window
end Tabular
