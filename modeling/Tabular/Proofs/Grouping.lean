import Tabular.Proofs.Keys

set_option autoImplicit false

namespace Tabular.Keyed

variable {α : Type} (key : α → Key)

/-- The elements whose key no element before them has. -/
def leaders (xs : List α) : List α := xs.eraseDupsBy fun b a => Key.same (key a) (key b)

/-- The elements that have the key of `a`. -/
def fellows (xs : List α) (a : α) : List α := xs.filter fun b => Key.same (key a) (key b)

theorem leaders_cons (a : α) (xs : List α) :
    leaders key (a :: xs) =
      a :: leaders key (xs.filter fun b => !Key.same (key a) (key b)) := by
  simp [leaders, List.eraseDupsBy_cons]

theorem foldl_push_cons (k : Key) (as : List α) (m : Keyed (List α)) (xs : List α) :
    xs.foldl (fun m a => push m (key a) a) ((k, as) :: m) =
      (k, as ++ xs.filter fun b => Key.same k (key b)) ::
        (xs.filter fun b => !Key.same k (key b)).foldl (fun m a => push m (key a) a) m := by
  induction xs generalizing as m with
  | nil => simp
  | cons a xs ih =>
    rw [List.foldl_cons, push]
    cases hk : Key.same k (key a) with
    | true => simp [hk, ih]
    | false => simp [hk, ih]

theorem group_cons (a : α) (xs : List α) :
    group key (a :: xs) =
      (key a, a :: fellows key xs a) ::
        group key (xs.filter fun b => !Key.same (key a) (key b)) :=
  foldl_push_cons key (key a) [a] [] xs

/-- Induction on what is left when the first element and those of its key are taken away. -/
theorem rest_induction {motive : List α → Prop} (nil : motive [])
    (cons : ∀ a xs, motive (xs.filter fun b => !Key.same (key a) (key b)) → motive (a :: xs))
    (xs : List α) : motive xs := by
  induction hn : xs.length using Nat.strongRecOn generalizing xs with
  | ind n ih =>
    cases xs with
    | nil => exact nil
    | cons a xs =>
      refine cons a xs (ih _ ?_ _ rfl)
      have hle := List.length_filter_le (fun b => !Key.same (key a) (key b)) xs
      rw [List.length_cons] at hn
      omega

variable {key}

theorem mem_leaders {xs : List α} {a : α} (h : a ∈ leaders key xs) : a ∈ xs := by
  induction xs using rest_induction key with
  | nil => cases h
  | cons b xs ih =>
    rw [leaders_cons] at h
    rcases List.mem_cons.1 h with rfl | h
    · exact List.mem_cons_self ..
    · exact List.mem_cons_of_mem _ (List.mem_filter.1 (ih h)).1

theorem exists_leader {xs : List α} {a : α} (h : a ∈ xs) :
    ∃ l ∈ leaders key xs, Key.same (key l) (key a) = true := by
  induction xs using rest_induction key with
  | nil => cases h
  | cons b xs ih =>
    rw [leaders_cons]
    cases hk : Key.same (key b) (key a) with
    | true => exact ⟨b, List.mem_cons_self .., hk⟩
    | false =>
      have hne : a ≠ b := by
        rintro rfl
        rw [Key.same_self] at hk
        cases hk
      have hrest := List.mem_of_ne_of_mem hne h
      obtain ⟨l, hl, hs⟩ := ih (List.mem_filter.2 ⟨hrest, by rw [hk]; rfl⟩)
      exact ⟨l, List.mem_cons_of_mem _ hl, hs⟩

theorem leaders_pairwise (xs : List α) :
    (leaders key xs).Pairwise fun a b => Key.same (key a) (key b) = false := by
  induction xs using rest_induction key with
  | nil => exact .nil
  | cons a xs ih =>
    rw [leaders_cons]
    refine List.pairwise_cons.2 ⟨fun b hb => ?_, ih⟩
    simpa using (List.mem_filter.1 (mem_leaders hb)).2

theorem fellows_congr {xs : List α} {a b : α} (h : Key.same (key a) (key b) = true) :
    fellows key xs a = fellows key xs b := by
  refine List.filter_congr fun c _ => ?_
  rw [Bool.eq_iff_iff]
  constructor
  · rw [Key.same_comm] at h
    exact Key.same_trans h
  · exact Key.same_trans h

theorem exists_leader_fellows {xs : List α} {a : α} (h : a ∈ xs) :
    ∃ l ∈ leaders key xs, fellows key xs l = fellows key xs a := by
  obtain ⟨l, hl, hs⟩ := exists_leader h
  exact ⟨l, hl, fellows_congr hs⟩

theorem fellows_filter {xs : List α} {a b : α} (h : Key.same (key a) (key b) = false) :
    fellows key (xs.filter fun c => !Key.same (key a) (key c)) b = fellows key xs b := by
  rw [fellows, fellows, List.filter_filter]
  refine List.filter_congr fun c _ => ?_
  cases hb : Key.same (key b) (key c) with
  | false => rfl
  | true =>
    have ha : Key.same (key a) (key c) = false := by
      refine Bool.eq_false_iff.2 fun ha => Bool.eq_false_iff.1 h ?_
      rw [Key.same_comm] at hb
      exact Key.same_trans ha hb
    rw [ha]
    rfl

theorem fellows_leader {xs : List α} {a : α} (h : a ∈ leaders key xs) :
    ∃ rest, fellows key xs a = a :: rest := by
  induction xs using rest_induction key with
  | nil => cases h
  | cons b xs ih =>
    rw [leaders_cons] at h
    rcases List.mem_cons.1 h with rfl | h
    · exact ⟨fellows key xs a, by simp [fellows]⟩
    · have hba : Key.same (key b) (key a) = false := by
        simpa using (List.mem_filter.1 (mem_leaders h)).2
      obtain ⟨rest, hr⟩ := ih h
      rw [fellows_filter hba] at hr
      refine ⟨rest, ?_⟩
      rw [← hr]
      simp [fellows, Key.same_comm (key a), hba]

variable (key)

/-- The groups are those of the leaders, each with all elements that have its key. -/
theorem group_eq (xs : List α) :
    group key xs = (leaders key xs).map fun a => (key a, fellows key xs a) := by
  induction xs using rest_induction key with
  | nil => rfl
  | cons a xs ih =>
    rw [group_cons, leaders_cons, List.map_cons, ih]
    congr 1
    · simp [fellows]
    · refine List.map_congr_left fun b hb => ?_
      have hab : Key.same (key a) (key b) = false := by
        simpa using (List.mem_filter.1 (mem_leaders hb)).2
      rw [fellows_filter hab]
      simp [fellows, Key.same_comm (key b), hab]

end Tabular.Keyed
