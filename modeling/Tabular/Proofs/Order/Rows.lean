import Mathlib.Data.List.Find
import Mathlib.Data.List.Pairwise
import Tabular.Proofs.Safety.Rows

set_option autoImplicit false

namespace Tabular

section
variable {ε α β γ : Type}

/-- Joins what the elements give. Where one gives an error nothing is given. -/
def collect (give : α → Except ε (List β)) : List α → Except ε (List β)
  | [] => .ok []
  | x :: xs => do
    let part ← give x
    let rest ← collect give xs
    return part ++ rest

theorem collect_congr {give give' : α → Except ε (List β)} {xs : List α}
    (h : ∀ x ∈ xs, give x = give' x) : collect give xs = collect give' xs := by
  induction xs with
  | nil => rfl
  | cons x xs ih =>
    obtain ⟨hx, hxs⟩ := List.forall_mem_cons.1 h
    rw [collect, collect, hx, ih hxs]

theorem collect_map (f : α → γ) (give : γ → Except ε (List β)) (xs : List α) :
    collect give (xs.map f) = collect (fun x => give (f x)) xs := by
  induction xs with
  | nil => rfl
  | cons x xs ih => rw [List.map_cons, collect, collect, ih]

theorem collect_append (give : α → Except ε (List β)) (xs ys : List α) :
    collect give (xs ++ ys) = (do
      let front ← collect give xs
      let back ← collect give ys
      return front ++ back) := by
  induction xs with
  | nil => cases h : collect give ys <;> simp [collect, h] <;> rfl
  | cons x xs ih =>
    rw [List.cons_append, collect, collect, ih]
    cases give x with
    | error e => rfl
    | ok part =>
      cases collect give xs with
      | error e => rfl
      | ok front =>
        cases collect give ys with
        | error e => rfl
        | ok back => exact congrArg Except.ok (List.append_assoc ..).symm

theorem collect_eq_mapM (give : α → Except ε (List β)) (xs : List α) :
    collect give xs = (xs.mapM give).map List.flatten := by
  induction xs with
  | nil => rfl
  | cons x xs ih =>
    rw [collect, ih, List.mapM_cons]
    cases give x with
    | error e => rfl
    | ok part => cases xs.mapM give <;> rfl

theorem collect_perm (give : α → Except ε (List β)) {xs ys : List α} (h : xs.Perm ys) :
    Matched List.Perm (collect give xs) (collect give ys) := by
  induction h with
  | nil => exact .ok .nil
  | cons x _ ih =>
    exact .bind_same (give x) fun part _ => ih.bind fun _ _ _ _ hp => .ok (hp.append_left part)
  | swap x y xs =>
    simp only [collect]
    cases give x with
    | error e =>
      cases give y with
      | error e' => exact .error _ _
      | ok q => exact .error _ _
    | ok p =>
      cases give y with
      | error e' => exact .error _ _
      | ok q =>
        cases collect give xs with
        | error e => exact .error _ _
        | ok rest => exact .ok (List.perm_append_comm_assoc q p rest)
  | trans _ _ ih ih' => exact ih.trans ih' fun _ _ _ => List.Perm.trans

end

namespace Keyed

variable {α : Type} {m m' : Keyed α}

theorem Unique.eq_of_same (h : m.Unique) {p q : Key × α} (hp : p ∈ m) (hq : q ∈ m)
    (hk : Key.same p.1 q.1 = true) : p = q := by
  by_contra hne
  have hsymm : Std.Symm fun (p q : Key × α) => Key.same p.1 q.1 = false :=
    ⟨fun a b hab => by rwa [Key.same_comm]⟩
  rw [List.Pairwise.forall h hp hq hne] at hk
  cases hk

theorem find?_perm (h : m.Perm m') (hu : m.Unique) (k : Key) : m.find? k = m'.find? k := by
  refine congrArg (Option.map _) (List.find?_eq_find?_of_perm h ?_)
  rintro p ⟨hp, hpk⟩ q ⟨hq, hqk⟩
  rw [Key.same_comm] at hqk
  exact hu.eq_of_same hp hq (Key.same_trans hpk hqk)

theorem contains_perm (h : m.Perm m') (k : Key) : m.contains k = m'.contains k :=
  h.any_eq

theorem Unique.perm (hu : m.Unique) (h : m.Perm m') : m'.Unique :=
  List.Pairwise.perm hu h fun {p q} hpq => by rwa [Key.same_comm]

end Keyed

/-- The same structure and the same rows, in any order. -/
structure Dataset.Rearranged (d e : Dataset) : Prop where
  schema : e.schema = d.schema
  rows : d.rows.Perm e.rows

namespace Dataset

variable {d e : Dataset}

theorem Rearranged.refl (d : Dataset) : d.Rearranged d := ⟨rfl, .refl _⟩

theorem Rearranged.distinct (h : d.Rearranged e) (hd : d.Distinct) : e.Distinct := by
  unfold Distinct rowKey at hd ⊢
  rw [h.schema]
  exact List.Pairwise.perm hd h.rows fun {q r} hqr => by rwa [Key.same_comm]

theorem ofRows_perm (s : Schema) {rows rows' : List Row} (h : rows.Perm rows') :
    Matched Rearranged (ofRows s rows) (ofRows s rows') := by
  have hback {rows rows' : List Row} (h : rows.Perm rows') {d : Dataset}
      (hd : ofRows s rows = .ok d) : ofRows s rows' = .ok ⟨s, rows'⟩ := by
    cases ofRows_eq hd
    obtain ⟨hc, hk⟩ := ofRows_ok hd
    have hr : Rearranged ⟨s, rows⟩ ⟨s, rows'⟩ := ⟨rfl, h⟩
    exact ofRows_of_conforms (fun r hm => hc r (h.mem_iff.2 hm)) (hr.distinct hk)
  cases hx : ofRows s rows with
  | ok d =>
    cases ofRows_eq hx
    rw [hback h hx]
    exact .ok ⟨rfl, h⟩
  | error e =>
    cases hy : ofRows s rows' with
    | ok d =>
      rw [hback h.symm hy] at hx
      cases hx
    | error e' => exact .error e e'

theorem rename_perm (h : d.Rearranged e) (pairs : List (String × String)) :
    Matched Rearranged (d.rename pairs) (e.rename pairs) := by
  unfold rename
  rw [h.schema]
  exact .bind_same _ fun s _ => .ok ⟨rfl, h.rows⟩

theorem project_perm (h : d.Rearranged e) (names : List String) (keep : Bool) :
    Matched Rearranged (d.project names keep) (e.project names keep) := by
  unfold project
  rw [h.schema]
  exact .bind_same _ fun s _ => .bind_same _ fun indices _ => .ok ⟨rfl, h.rows.map _⟩

theorem filterRows_eq (s : Schema) (condition : Scalar) (outer : Scope) (rows : List Row) :
    filterRows s condition outer rows = collect (fun r => do
      let v ← condition.eval (Scope.ofRow s r outer)
      return if v.boolean? = some true then [r] else []) rows := by
  induction rows with
  | nil => rfl
  | cons r rest ih =>
    rw [filterRows, collect, ih]
    cases condition.eval (Scope.ofRow s r outer) with
    | error e => rfl
    | ok v =>
      change (collect _ rest >>= _) = (collect _ rest >>= _)
      refine congrArg (collect _ rest >>= ·) (funext fun kept => ?_)
      split <;> rfl

theorem filter_perm (h : d.Rearranged e) (condition : Scalar) (outer : Scope) :
    Matched Rearranged (d.filter condition outer) (e.filter condition outer) := by
  unfold filter
  rw [h.schema, filterRows_eq, filterRows_eq]
  exact (collect_perm _ h.rows).bind fun _ _ _ _ hp => .ok ⟨rfl, hp⟩

theorem calculateRows_eq (s : Schema) (columns : List CalcColumn) (slots : List Nat) (width : Nat)
    (outer : Scope) (rows : List Row) :
    calculateRows s columns slots width outer rows =
      collect (fun r => do
        let q ← calculateRow s columns slots width outer r
        return [q]) rows := by
  induction rows with
  | nil => rfl
  | cons r rest ih =>
    rw [calculateRows, collect, ih]
    cases calculateRow s columns slots width outer r <;> rfl

theorem calculate_perm (h : d.Rearranged e) (columns : List CalcColumn) (outer : Scope) :
    Matched Rearranged (d.calculate columns outer) (e.calculate columns outer) := by
  unfold calculate
  rw [h.schema]
  refine .bind_same _ fun s _ => .bind_same _ fun slots _ => ?_
  rw [calculateRows_eq, calculateRows_eq]
  refine (collect_perm _ h.rows).bind fun _ _ _ _ hp => ?_
  split
  · exact (ofRows_perm s hp).lift
  · exact .ok ⟨rfl, hp⟩

end Dataset
end Tabular
