import Tabular.Dataset.Keyed
import Tabular.Number.Order

set_option autoImplicit false

namespace Tabular

namespace Number

def canonical (x : Number) : Number :=
  if x.isNaN then nan else if x.isZero then ⟨0⟩ else x

theorem isNaN_of_isZero {x : Number} (h : x.isZero = true) : x.isNaN = false := by
  have hb : x.abs.bits = 0 := eq_of_beq h
  rw [isNaN, hb]
  rfl

theorem isNaN_canonical (x : Number) : x.canonical.isNaN = x.isNaN := by
  unfold canonical
  split
  · rename_i h
    rw [h]
    rfl
  · rename_i h
    split
    · exact (Bool.eq_false_iff.2 h).symm
    · rfl

theorem isZero_canonical (x : Number) : x.canonical.isZero = x.isZero := by
  unfold canonical
  split
  · rename_i h
    cases hz : x.isZero with
    | true => exact absurd h (by rw [isNaN_of_isZero hz]; exact Bool.false_ne_true)
    | false => rfl
  · split
    · rename_i h
      rw [h]
      rfl
    · rfl

theorem same_iff {x y : Number} : x.same y = true ↔ x.canonical = y.canonical := by
  constructor
  · intro h
    simp only [same, equals, Bool.or_eq_true, Bool.and_eq_true, Bool.not_eq_true'] at h
    obtain ⟨⟨hx, hy⟩, hb | ⟨hzx, hzy⟩⟩ | ⟨hx, hy⟩ := h
    · have he : x = y := by
        cases x
        cases y
        exact congrArg _ (eq_of_beq hb)
      rw [he]
    · simp [canonical, hx, hy, hzx, hzy]
    · simp [canonical, hx, hy]
  · intro h
    have hn : x.isNaN = y.isNaN := by rw [← isNaN_canonical x, h, isNaN_canonical]
    have hz : x.isZero = y.isZero := by rw [← isZero_canonical x, h, isZero_canonical]
    unfold canonical at h
    rw [hn, hz] at h
    unfold same equals
    rw [hn, hz]
    cases hyn : y.isNaN with
    | true => rfl
    | false =>
      cases hyz : y.isZero with
      | true => simp
      | false =>
        rw [hyn, hyz] at h
        have he : x = y := h
        simp [he]

end Number

namespace Value

/-- One value for all that are the same. -/
def canonical : Value → Value
  | .number x => .number x.canonical
  | v => v

theorem same_iff {v w : Value} : v.same w = true ↔ v.canonical = w.canonical := by
  cases v <;> cases w <;> simp [same, canonical, Number.same_iff]

end Value

namespace Key

theorem same_iff {k l : Key} : k.same l = true ↔ k.map Value.canonical = l.map Value.canonical := by
  induction k generalizing l with
  | nil => cases l <;> simp [same]
  | cons v k ih =>
    cases l with
    | nil => simp [same]
    | cons w l => simp [same, Value.same_iff, ih]

@[simp] theorem same_self (k : Key) : k.same k = true := same_iff.2 rfl

theorem same_comm (k l : Key) : k.same l = l.same k := by
  rw [Bool.eq_iff_iff, same_iff, same_iff]
  exact eq_comm

theorem same_trans {k l m : Key} (hkl : k.same l = true) (hlm : l.same m = true) :
    k.same m = true :=
  same_iff.2 ((same_iff.1 hkl).trans (same_iff.1 hlm))

theorem same_append {k l k' l' : Key} (hk : k.length = k'.length)
    (h : Key.same (k ++ l) (k' ++ l') = true) : k.same k' = true ∧ l.same l' = true := by
  rw [same_iff, List.map_append, List.map_append] at h
  obtain ⟨h1, h2⟩ := List.append_inj h (by simpa using hk)
  exact ⟨same_iff.2 h1, same_iff.2 h2⟩

theorem same_map {α : Type} {names : List α} {f g : α → Value} :
    Key.same (names.map f) (names.map g) = true ↔ ∀ n ∈ names, (f n).same (g n) = true := by
  induction names with
  | nil => simp
  | cons n names ih => simp [same, ih]

end Key

namespace Keyed

variable {α : Type}

def Unique (m : Keyed α) : Prop := m.Pairwise fun p q => Key.same p.1 q.1 = false

theorem unique_nil : Unique ([] : Keyed α) := .nil

theorem contains_eq_false {m : Keyed α} {k : Key} :
    m.contains k = false ↔ ∀ p ∈ m, Key.same p.1 k = false := by
  simp [contains]

theorem mem_insert {m : Keyed α} {k : Key} {a : α} {p : Key × α} (h : p ∈ m.insert k a) :
    p ∈ m ∨ p.2 = a ∧ Key.same p.1 k = true := by
  induction m with
  | nil =>
    cases List.mem_singleton.1 h
    exact .inr ⟨rfl, Key.same_self k⟩
  | cons q rest ih =>
    unfold insert at h
    split at h
    · rename_i hs
      rcases List.mem_cons.1 h with rfl | h
      · exact .inr ⟨rfl, hs⟩
      · exact .inl (List.mem_cons_of_mem _ h)
    · rcases List.mem_cons.1 h with rfl | h
      · exact .inl (List.mem_cons_self ..)
      · rcases ih h with h | h
        · exact .inl (List.mem_cons_of_mem _ h)
        · exact .inr h

theorem key_mem_insert {m : Keyed α} {k : Key} {a : α} {p : Key × α} (h : p ∈ m.insert k a) :
    (∃ q ∈ m, q.1 = p.1) ∨ p.1 = k := by
  induction m with
  | nil =>
    cases List.mem_singleton.1 h
    exact .inr rfl
  | cons q rest ih =>
    unfold insert at h
    split at h
    · rcases List.mem_cons.1 h with rfl | h
      · exact .inl ⟨q, List.mem_cons_self .., rfl⟩
      · exact .inl ⟨p, List.mem_cons_of_mem _ h, rfl⟩
    · rcases List.mem_cons.1 h with rfl | h
      · exact .inl ⟨q, List.mem_cons_self .., rfl⟩
      · rcases ih h with ⟨o, ho, he⟩ | he
        · exact .inl ⟨o, List.mem_cons_of_mem _ ho, he⟩
        · exact .inr he

theorem unique_insert {m : Keyed α} (h : m.Unique) (k : Key) (a : α) : (m.insert k a).Unique := by
  induction m with
  | nil => exact List.pairwise_singleton _ _
  | cons q rest ih =>
    obtain ⟨hq, hr⟩ := List.pairwise_cons.1 h
    unfold insert
    split
    · exact List.pairwise_cons.2 ⟨hq, hr⟩
    · rename_i hs
      refine List.pairwise_cons.2 ⟨fun p hp => ?_, ih hr⟩
      rcases key_mem_insert hp with ⟨o, ho, he⟩ | he
      · exact he ▸ hq o ho
      · rw [he]
        exact Bool.eq_false_iff.2 hs

theorem unique_insertNew {m : Keyed α} (h : m.Unique) (k : Key) (a : α) :
    (m.insertNew k a).Unique := by
  unfold insertNew
  split
  · exact h
  · rename_i hc
    have hk := contains_eq_false.1 (Bool.eq_false_iff.2 hc)
    refine List.pairwise_append.2 ⟨h, List.pairwise_singleton _ _, fun p hp q hq => ?_⟩
    cases List.mem_singleton.1 hq
    exact hk p hp

theorem mem_insertNew {m : Keyed α} {k : Key} {a : α} {p : Key × α} (h : p ∈ m.insertNew k a) :
    p ∈ m ∨ p = (k, a) := by
  unfold insertNew at h
  split at h
  · exact .inl h
  · simpa using h

theorem unique_filter {m : Keyed α} (h : m.Unique) (p : Key × α → Bool) : Unique (m.filter p) :=
  List.Pairwise.filter p h

/-- Groups with one key each, under the key of the first member, of members that satisfy `P`. -/
structure Grouped (key : α → Key) (P : α → Prop) (m : Keyed (List α)) : Prop where
  unique : m.Unique
  headed : ∀ p ∈ m, ∃ a rest, p.2 = a :: rest ∧ key a = p.1
  members : ∀ p ∈ m, ∀ a ∈ p.2, P a

theorem mem_push {m : Keyed (List α)} {k : Key} {a : α} {p : Key × List α}
    (h : p ∈ push m k a) :
    p ∈ m ∨ (∃ as, (p.1, as) ∈ m ∧ p.2 = as ++ [a]) ∨ p = (k, [a]) := by
  induction m with
  | nil => exact .inr (.inr (List.mem_singleton.1 h))
  | cons q rest ih =>
    unfold push at h
    split at h
    · rcases List.mem_cons.1 h with rfl | h
      · exact .inr (.inl ⟨q.2, List.mem_cons_self .., rfl⟩)
      · exact .inl (List.mem_cons_of_mem _ h)
    · rcases List.mem_cons.1 h with rfl | h
      · exact .inl (List.mem_cons_self ..)
      · rcases ih h with h | ⟨as, h, he⟩ | h
        · exact .inl (List.mem_cons_of_mem _ h)
        · exact .inr (.inl ⟨as, List.mem_cons_of_mem _ h, he⟩)
        · exact .inr (.inr h)

theorem unique_push {m : Keyed (List α)} (h : m.Unique) (k : Key) (a : α) :
    Unique (push m k a) := by
  induction m with
  | nil => exact List.pairwise_singleton _ _
  | cons q rest ih =>
    obtain ⟨hq, hr⟩ := List.pairwise_cons.1 h
    unfold push
    split
    · exact List.pairwise_cons.2 ⟨hq, hr⟩
    · rename_i hs
      refine List.pairwise_cons.2 ⟨fun p hp => ?_, ih hr⟩
      rcases mem_push hp with h | ⟨as, h, _⟩ | h
      · exact hq p h
      · exact hq (p.1, as) h
      · rw [h]
        exact Bool.eq_false_iff.2 hs

theorem Grouped.push {key : α → Key} {P : α → Prop} {m : Keyed (List α)}
    (h : Grouped key P m) {a : α} (ha : P a) : Grouped key P (push m (key a) a) where
  unique := unique_push h.unique _ _
  headed p hp := by
    rcases mem_push hp with hp | ⟨as, hp, he⟩ | rfl
    · exact h.headed p hp
    · obtain ⟨b, rest, hb, hk⟩ := h.headed _ hp
      change as = b :: rest at hb
      exact ⟨b, rest ++ [a], by rw [he, hb, List.cons_append], hk⟩
    · exact ⟨a, [], rfl, rfl⟩
  members p hp b hb := by
    rcases mem_push hp with hp | ⟨as, hp, he⟩ | rfl
    · exact h.members p hp b hb
    · rw [he] at hb
      rcases List.mem_append.1 hb with hb | hb
      · exact h.members _ hp b hb
      · exact List.mem_singleton.1 hb ▸ ha
    · exact List.mem_singleton.1 hb ▸ ha

theorem grouped_foldl {key : α → Key} {P : α → Prop} {xs : List α} (hx : ∀ a ∈ xs, P a)
    {m : Keyed (List α)} (h : Grouped key P m) :
    Grouped key P (xs.foldl (fun m a => Keyed.push m (key a) a) m) := by
  induction xs generalizing m with
  | nil => exact h
  | cons a xs ih =>
    obtain ⟨ha, hx⟩ := List.forall_mem_cons.1 hx
    exact ih hx (h.push ha)

theorem grouped_group (key : α → Key) (xs : List α) : Grouped key (· ∈ xs) (group key xs) :=
  grouped_foldl (fun _ ha => ha)
    ⟨unique_nil, fun _ hp => absurd hp List.not_mem_nil, fun _ hp => absurd hp List.not_mem_nil⟩

end Keyed
end Tabular
