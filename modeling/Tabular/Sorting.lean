set_option autoImplicit false

namespace Tabular.Sorting

variable {α : Type}

/-- Inserts into a list that runs from the greatest element down. -/
def insertDown (order : α → α → Ordering) (a : α) : List α → List α
  | [] => [a]
  | b :: rest =>
    if order a b = .lt then b :: insertDown order a rest else a :: b :: rest

def insertAll (order : α → α → Ordering) : List α → List α → List α
  | sorted, [] => sorted
  | sorted, a :: rest => insertAll order (insertDown order a sorted) rest

def sort (order : α → α → Ordering) (xs : List α) : List α := (insertAll order [] xs).reverse

theorem insertDown_perm (order : α → α → Ordering) (a : α) (xs : List α) :
    (insertDown order a xs).Perm (a :: xs) := by
  induction xs with
  | nil => exact .refl _
  | cons b rest ih =>
    unfold insertDown
    split
    · exact (ih.cons b).trans (.swap a b rest)
    · exact .refl _

theorem insertAll_perm (order : α → α → Ordering) (sorted xs : List α) :
    (insertAll order sorted xs).Perm (sorted ++ xs) := by
  induction xs generalizing sorted with
  | nil => simp [insertAll]
  | cons a rest ih =>
    unfold insertAll
    refine (ih _).trans (((insertDown_perm order a sorted).append_right rest).trans ?_)
    exact List.perm_middle.symm

theorem sort_perm (order : α → α → Ordering) (xs : List α) : (sort order xs).Perm xs :=
  (List.reverse_perm _).trans (insertAll_perm order [] xs)

end Tabular.Sorting
