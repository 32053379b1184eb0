import Mathlib.Order.Bounds.Basic
import Tabular.Operation.Call

set_option autoImplicit false

/-!
# Edit distance as a least number of edits

An edit inserts, deletes or replaces one character. The distance is first taken from the front of
both texts: no edit changes it by more than one, and so many edits always suffice. A row of the
table holds the distances of one text to every beginning of the other. Since both texts grow at the
end there, they are read backwards, which turns edits into edits.
-/
namespace Tabular.Text

inductive Edit : List Char → List Char → Prop
  | insert (u v : List Char) (x : Char) : Edit (u ++ v) (u ++ x :: v)
  | delete (u v : List Char) (x : Char) : Edit (u ++ x :: v) (u ++ v)
  | replace (u v : List Char) (x y : Char) : Edit (u ++ x :: v) (u ++ y :: v)

/-- The second text comes from the first by so many edits, one after the other. -/
inductive Edits : Nat → List Char → List Char → Prop
  | refl (a : List Char) : Edits 0 a a
  | step {n : Nat} {a b c : List Char} (first : Edit a b) (rest : Edits n b c) : Edits (n + 1) a c

variable {m n : Nat} {a b c : List Char}

theorem Edit.symm (h : Edit a b) : Edit b a := by
  cases h with
  | insert u v x => exact .delete u v x
  | delete u v x => exact .insert u v x
  | replace u v x y => exact .replace u v y x

theorem Edit.cons (z : Char) (h : Edit a b) : Edit (z :: a) (z :: b) := by
  cases h with
  | insert u v x => exact .insert (z :: u) v x
  | delete u v x => exact .delete (z :: u) v x
  | replace u v x y => exact .replace (z :: u) v x y

theorem Edit.reverse (h : Edit a b) : Edit a.reverse b.reverse := by
  cases h with
  | insert u v x => simpa using Edit.insert v.reverse u.reverse x
  | delete u v x => simpa using Edit.delete v.reverse u.reverse x
  | replace u v x y => simpa using Edit.replace v.reverse u.reverse x y

theorem Edits.single (h : Edit a b) : Edits 1 a b := .step h (.refl b)

theorem Edits.trans (h : Edits m a b) (h' : Edits n b c) : Edits (m + n) a c := by
  induction h with
  | refl => rwa [Nat.zero_add]
  | step first _ ih =>
    rw [Nat.add_right_comm]
    exact .step first (ih h')

theorem Edits.symm (h : Edits n a b) : Edits n b a := by
  induction h with
  | refl a => exact .refl a
  | step first _ ih => exact ih.trans (.single first.symm)

theorem Edits.cons (z : Char) (h : Edits n a b) : Edits n (z :: a) (z :: b) := by
  induction h with
  | refl a => exact .refl (z :: a)
  | step first _ ih => exact .step (first.cons z) ih

theorem Edits.reverse (h : Edits n a b) : Edits n a.reverse b.reverse := by
  induction h with
  | refl a => exact .refl a.reverse
  | step first _ ih => exact .step first.reverse ih

theorem edits_nil (a : List Char) : Edits a.length a [] := by
  induction a with
  | nil => exact .refl []
  | cons x a ih => exact .step (.delete [] a x) ih

theorem eq_of_edits_zero (h : Edits 0 a b) : a = b := by
  cases h
  rfl

def distance : List Char → List Char → Nat
  | [], b => b.length
  | a, [] => a.length
  | x :: a, y :: b =>
    min (min (distance a b + if x = y then 0 else 1) (distance a (y :: b) + 1))
      (distance (x :: a) b + 1)
termination_by a b => a.length + b.length

@[simp] theorem distance_nil_left (b : List Char) : distance [] b = b.length := by
  rw [distance]

@[simp] theorem distance_nil_right (a : List Char) : distance a [] = a.length := by
  cases a <;> simp [distance]

theorem distance_cons_cons (x y : Char) (a b : List Char) :
    distance (x :: a) (y :: b) =
      min (min (distance a b + if x = y then 0 else 1) (distance a (y :: b) + 1))
        (distance (x :: a) b + 1) := by
  rw [distance]

theorem distance_self (a : List Char) : distance a a = 0 := by
  induction a with
  | nil => rw [distance_nil_left, List.length_nil]
  | cons x a ih =>
    rw [distance_cons_cons, ih, if_pos rfl]
    simp

theorem distance_le_max (a b : List Char) : distance a b ≤ max a.length b.length := by
  fun_induction distance a b with
  | case1 b => exact Nat.le_max_right _ _
  | case2 a => exact Nat.le_max_left _ _
  | case3 x a y b ih =>
    have hreplace : (if x = y then 0 else 1) ≤ 1 := by split <;> omega
    rw [List.length_cons, List.length_cons]
    omega

theorem edits_distance (a b : List Char) : Edits (distance a b) a b := by
  fun_induction distance a b with
  | case1 b => exact (edits_nil b).symm
  | case2 a => exact edits_nil a
  | case3 x a y b replaced deleted inserted =>
    have hleast (p q r : Nat) :
        min (min p q) r = p ∨ min (min p q) r = q ∨ min (min p q) r = r := by omega
    rcases hleast (distance a b + if x = y then 0 else 1) (distance a (y :: b) + 1)
      (distance (x :: a) b + 1) with h | h | h <;> rw [h]
    · by_cases hxy : x = y
      · rw [if_pos hxy, Nat.add_zero, hxy]
        exact replaced.cons y
      · rw [if_neg hxy]
        exact .step (.replace [] a x y) (replaced.cons y)
    · exact .step (.delete [] a x) deleted
    · exact inserted.trans (.single (.insert [] b y))

theorem distance_insert_right (a b : List Char) (y : Char) :
    distance a (y :: b) ≤ distance a b + 1 := by
  cases a with
  | nil => simp
  | cons x a =>
    rw [distance_cons_cons]
    omega

theorem distance_delete_left (a b : List Char) (x : Char) :
    distance (x :: a) b ≤ distance a b + 1 := by
  cases b with
  | nil => simp
  | cons y b =>
    rw [distance_cons_cons]
    omega

theorem distance_insert_left (a b : List Char) (x : Char) :
    distance a b ≤ distance (x :: a) b + 1 := by
  induction b with
  | nil =>
    simp
    omega
  | cons y b ih =>
    have hright := distance_insert_right a b y
    rw [distance_cons_cons]
    omega

theorem distance_replace_left (a b : List Char) (x z : Char) :
    distance (x :: a) b ≤ distance (z :: a) b + 1 := by
  induction b with
  | nil => simp
  | cons y b ih =>
    have hreplace : (if x = y then 0 else 1) ≤ 1 := by split <;> omega
    rw [distance_cons_cons, distance_cons_cons]
    omega

theorem distance_cons_le {a b : List Char} (h : ∀ c, distance a c ≤ distance b c + 1) (x : Char)
    (c : List Char) : distance (x :: a) c ≤ distance (x :: b) c + 1 := by
  induction c with
  | nil => simpa using h []
  | cons y c ih =>
    have hreplaced := h c
    have hdeleted := h (y :: c)
    rw [distance_cons_cons, distance_cons_cons]
    omega

theorem distance_append_le {a b : List Char} (h : ∀ c, distance a c ≤ distance b c + 1)
    (u c : List Char) : distance (u ++ a) c ≤ distance (u ++ b) c + 1 := by
  induction u generalizing c with
  | nil => exact h c
  | cons x u ih => exact distance_cons_le ih x c

theorem Edit.distance_le (h : Edit a b) (c : List Char) : distance a c ≤ distance b c + 1 := by
  cases h with
  | insert u v x => exact distance_append_le (fun c => distance_insert_left v c x) u c
  | delete u v x => exact distance_append_le (fun c => distance_delete_left v c x) u c
  | replace u v x y => exact distance_append_le (fun c => distance_replace_left v c x y) u c

theorem Edits.distance_le (h : Edits n a b) : distance a b ≤ n := by
  induction h with
  | refl a => exact Nat.le_of_eq (distance_self a)
  | step first _ ih => exact (first.distance_le _).trans (Nat.add_le_add_right ih 1)

/-- The distances of `p` to the texts that have more and more of the last argument, read backwards,
    in front of `q`. -/
def entries (p : List Char) : List Char → List Char → List Nat
  | _, [] => []
  | q, y :: b => distance p (y :: q) :: entries p (y :: q) b

/-- The row of the table for the text that is `p` backwards. -/
def tableRow (p b : List Char) : List Nat := distance p [] :: entries p [] b

theorem distanceCells_entries (x : Char) (p q b : List Char) :
    distanceCells x (distance (x :: p) q) (distance p q) b (entries p q b) =
      entries (x :: p) q b := by
  induction b generalizing q with
  | nil => rfl
  | cons y b ih =>
    rw [entries, distanceCells, entries, ← distance_cons_cons, ih]

theorem distanceRow_tableRow (x : Char) (p b : List Char) :
    distanceRow x b (tableRow p b) = tableRow (x :: p) b := by
  have hfirst : distance p [] + 1 = distance (x :: p) [] := by simp
  rw [tableRow, distanceRow, hfirst, distanceCells_entries, tableRow]

theorem distanceRows_tableRow (a p b : List Char) :
    distanceRows b a (tableRow p b) = tableRow (a.reverse ++ p) b := by
  induction a generalizing p with
  | nil => rfl
  | cons x a ih =>
    rw [distanceRows, distanceRow_tableRow, ih, List.reverse_cons, List.append_assoc,
      List.singleton_append]

theorem entries_nil (q b : List Char) : entries [] q b = List.range' (q.length + 1) b.length := by
  induction b generalizing q with
  | nil => rfl
  | cons y b ih =>
    rw [entries, ih, distance_nil_left, List.length_cons, List.length_cons, List.range'_succ]

theorem tableRow_nil (b : List Char) : tableRow [] b = List.range (b.length + 1) := by
  rw [tableRow, entries_nil, List.range_eq_range', List.range'_succ, distance_nil_left]
  rfl

theorem getLastD_entries (p q b : List Char) :
    (entries p q b).getLastD (distance p q) = distance p (b.reverse ++ q) := by
  induction b generalizing q with
  | nil => rfl
  | cons y b ih =>
    rw [entries, List.getLastD_cons, ih, List.reverse_cons, List.append_assoc,
      List.singleton_append]

theorem editDistance_eq (a b : List Char) : editDistance a b = distance a.reverse b.reverse := by
  rw [editDistance, ← tableRow_nil, distanceRows_tableRow, tableRow, List.getLastD_cons,
    getLastD_entries, List.append_nil, List.append_nil]

theorem isLeast_editDistance (a b : List Char) : IsLeast {n | Edits n a b} (editDistance a b) := by
  rw [editDistance_eq]
  refine ⟨?_, fun n h => h.reverse.distance_le⟩
  simpa using (edits_distance a.reverse b.reverse).reverse

theorem editDistance_comm (a b : List Char) : editDistance a b = editDistance b a :=
  Nat.le_antisymm ((isLeast_editDistance a b).2 (isLeast_editDistance b a).1.symm)
    ((isLeast_editDistance b a).2 (isLeast_editDistance a b).1.symm)

theorem editDistance_eq_zero_iff (a b : List Char) : editDistance a b = 0 ↔ a = b := by
  constructor
  · intro h
    have hedits := (isLeast_editDistance a b).1
    rw [h] at hedits
    exact eq_of_edits_zero hedits
  · rintro rfl
    rw [editDistance_eq, distance_self]

theorem editDistance_triangle (a b c : List Char) :
    editDistance a c ≤ editDistance a b + editDistance b c :=
  (isLeast_editDistance a c).2 ((isLeast_editDistance a b).1.trans (isLeast_editDistance b c).1)

theorem editDistance_le_max (a b : List Char) : editDistance a b ≤ max a.length b.length := by
  simpa [editDistance_eq] using distance_le_max a.reverse b.reverse

end Tabular.Text

namespace Tabular.Operation

open Text

/-- The operation gives the least number of edits that turn one text into the other, which is in
    range if the lengths of the texts are. It is the same both ways, zero for equal texts only, and
    at most what the way over a third text takes. -/
theorem call_editDistance (today : Date) (s t : String) :
    editDistance.call today [.string s, .string t] =
      .ok (.integer (Int64.ofNat (Text.editDistance s.toList t.toList))) ∧
    IsLeast {n | Edits n s.toList t.toList} (Text.editDistance s.toList t.toList) ∧
    Text.editDistance s.toList t.toList = Text.editDistance t.toList s.toList ∧
    (Text.editDistance s.toList t.toList = 0 ↔ s = t) ∧
    (∀ u : String, Text.editDistance s.toList u.toList ≤
      Text.editDistance s.toList t.toList + Text.editDistance t.toList u.toList) ∧
    (s.length ≤ Integer.greatest → t.length ≤ Integer.greatest →
      (Int64.ofNat (Text.editDistance s.toList t.toList)).toInt =
        Text.editDistance s.toList t.toList) := by
  refine ⟨rfl, isLeast_editDistance _ _, editDistance_comm _ _, ?_,
    fun u => editDistance_triangle _ _ _, fun hs ht => ?_⟩
  · rw [editDistance_eq_zero_iff, String.toList_inj]
  · have hmax := editDistance_le_max s.toList t.toList
    rw [String.length_toList, String.length_toList] at hmax
    exact Integer.toInt_ofNat (by omega)

theorem call_editDistance_kitten :
    editDistance.call .epoch [.string "kitten", .string "sitting"] = .ok (.integer 3) ∧
    IsLeast {n | Edits n "kitten".toList "sitting".toList} 3 := by
  have hthree : Text.editDistance "kitten".toList "sitting".toList = 3 := by decide +kernel
  obtain ⟨hcall, hleast, -⟩ := call_editDistance .epoch "kitten" "sitting"
  rw [hthree] at hcall hleast
  exact ⟨hcall, hleast⟩

end Tabular.Operation
