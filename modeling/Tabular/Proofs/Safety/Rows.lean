import Tabular.Proofs.Distinct
import Tabular.Proofs.Safety.Scalars
import Tabular.Proofs.Safety.Windows

set_option autoImplicit false

namespace Tabular

/-- One value for each component, of its type. -/
def Conform (cs : List Component) (vs : List Value) : Prop :=
  List.Forall₂ (fun c v => v.conforms c.type = true) cs vs

theorem Conform.append {cs ds : List Component} {vs ws : List Value} (h : Conform cs vs)
    (h' : Conform ds ws) : Conform (cs ++ ds) (vs ++ ws) :=
  List.rel_append h h'

theorem conform_map {cs : List Component} {f : Component → Value}
    (h : ∀ c ∈ cs, (f c).conforms c.type = true) : Conform cs (cs.map f) :=
  List.forall₂_map_right_iff.2 (List.forall₂_same.2 h)

theorem conform_singleton {c : Component} {v : Value} (h : v.conforms c.type = true) :
    Conform [c] [v] :=
  .cons h .nil

/-- The row has the arity and the types of the structure. -/
def Schema.Admits (s : Schema) (r : Row) : Prop := Conform s.components r

def Dataset.Conforms (d : Dataset) : Prop := ∀ r ∈ d.rows, d.schema.Admits r

namespace Schema

variable {s t : Schema}

def Declares (s : Schema) (n : String) (t : ScalarType) : Prop :=
  ∃ c ∈ s.components, c.name = n ∧ c.type = t

theorem Declares.unique {n : String} {t u : ScalarType} (ht : s.Declares n t)
    (hu : s.Declares n u) : t = u := by
  obtain ⟨c, hc, rfl, rfl⟩ := ht
  obtain ⟨d, hd, hn, rfl⟩ := hu
  rw [eq_of_name_eq hc hd hn.symm]

theorem Admits.length_eq {r : Row} (h : s.Admits r) : r.length = s.size :=
  (List.Forall₂.length_eq h).symm

theorem Admits.read {r : Row} (h : s.Admits r) {c : Component} (hc : c ∈ s.components) :
    (s.read r c.name).conforms c.type = true := by
  obtain ⟨i, hi⟩ := List.getElem?_of_mem hc
  obtain ⟨hlt, hget⟩ := List.getElem?_eq_some_iff.1 hi
  have hr : i < r.length := by
    rw [h.length_eq]
    exact hlt
  have hv := List.Forall₂.get h hlt hr
  rw [read_of_indexOf? (indexOf?_of_getElem? hi), Row.cell_eq_getElem hr]
  simpa [hget] using hv

theorem eq_map_read {r : Row} (hl : r.length = s.size) :
    r = s.components.map fun c => s.read r c.name := by
  refine List.ext_getElem (by rw [List.length_map, hl]; rfl) fun i h1 h2 => ?_
  have hi : i < s.components.length := by simpa using h2
  have hx := indexOf?_of_getElem? (List.getElem?_eq_getElem hi)
  rw [List.getElem_map, read_of_indexOf? hx, Row.cell_eq_getElem h1]

theorem admits_of_reads {r : Row} (hl : r.length = s.size)
    (h : ∀ c ∈ s.components, (s.read r c.name).conforms c.type = true) : s.Admits r := by
  unfold Admits
  rw [eq_map_read hl]
  exact conform_map h

theorem Admits.cells {r : Row} (h : s.Admits r) (p : Component → Bool) :
    Conform (s.components.filter p) ((indicesFrom p 0 s.components).map r.cell) := by
  rw [s.cells_indices p r]
  exact conform_map fun c hc => h.read (List.mem_of_mem_filter hc)

theorem Admits.key {r : Row} (h : s.Admits r) :
    Conform s.identifiers (Row.key r s.identifierIndices) :=
  h.cells Component.isIdentifier

theorem Admits.project {r : Row} (h : s.Admits r) (ht : t.components ⊆ s.components)
    {indices : List Nat} (hx : s.positions t.names = .ok indices) :
    t.Admits (r.project indices) := by
  unfold Admits Row.project
  rw [cells_positions hx, names, List.map_map]
  exact conform_map fun c hc => h.read (ht hc)

theorem names_subset (h : t.components ⊆ s.components) : t.names ⊆ s.names :=
  List.map_subset _ h

end Schema

theorem Scope.covers_ofRow {s : Schema} {r : Row} (h : s.Admits r) (outer : Scope) :
    Scalar.Covers (Scope.ofRow s r outer) s.Declares := by
  rintro n t ⟨c, hc, rfl, rfl⟩
  obtain ⟨i, hi⟩ := List.getElem?_of_mem hc
  have hx := Schema.indexOf?_of_getElem? hi
  have hv := h.read hc
  rw [Schema.read_of_indexOf? hx] at hv
  refine ⟨r.cell i, ?_, hv⟩
  simp [Scope.ofRow, hx]

namespace Schema

variable {s t : Schema}

theorem read_set_self {r : Row} {n : String} {i : Nat} (hi : t.indexOf? n = some i)
    (hl : r.length = t.size) (v : Value) : t.read (r.set i v) n = v := by
  rw [read_of_indexOf? hi, Row.cell_set_self (hl ▸ lt_of_indexOf? hi)]

theorem read_set_of_ne {r : Row} {m n : String} {i : Nat} (hi : t.indexOf? n = some i)
    (hne : m ≠ n) (v : Value) : t.read (r.set i v) m = t.read r m := by
  unfold read
  split
  · rename_i j hj
    have hij : i ≠ j := by
      rintro rfl
      exact hne (indexOf?_inj hj hi)
    exact Row.cell_set_of_ne hij v
  · rfl

theorem assign_cons_mem {cs cs' : List Component} {col : Column} {rest : List Column}
    (h : s.assign cs (col :: rest) = .ok cs') :
    ∃ next, s.assign next rest = .ok cs' ∧
      ∀ c ∈ next, c = col.component ∨ c ∈ cs ∧ c.name ≠ col.name := by
  obtain ⟨_, next, hr, ⟨_, rfl⟩ | ⟨hn, rfl⟩⟩ := assign_cons h
  · refine ⟨_, hr, fun c hc => ?_⟩
    obtain ⟨d, hd, rfl⟩ := List.mem_map.1 hc
    split
    · exact .inl rfl
    · rename_i hne
      exact .inr ⟨hd, hne⟩
  · refine ⟨_, hr, fun c hc => ?_⟩
    rcases List.mem_append.1 hc with hc | hc
    · exact .inr ⟨hc, fun he => hn (List.mem_map.2 ⟨c, hc, he⟩)⟩
    · exact .inl (List.mem_singleton.1 hc)

/-- Assigning columns and writing their values go in step: of several columns of one name the last
    gives both the type and the value. -/
theorem read_assigned {cs : List Component} {cols : List Column}
    (h : s.assign cs cols = .ok t.components) {slots : List Nat}
    (hp : t.positions (cols.map (·.name)) = .ok slots) {values : List Value}
    (hv : List.Forall₂ (fun (col : Column) v => v.conforms col.type = true) cols values)
    {r : Row} (hl : r.length = t.size)
    (hr : ∀ c ∈ cs, (t.read r c.name).conforms c.type = true) :
    ∀ c ∈ t.components, (t.read (r.write (slots.zip values)) c.name).conforms c.type = true := by
  induction hv generalizing cs slots r with
  | nil =>
    cases h
    cases hp
    exact hr
  | cons hcol _ ih =>
    rename_i col v cols values _
    obtain ⟨next, hnext, hmem⟩ := assign_cons_mem h
    obtain ⟨i, hi, hp⟩ := ok_of_bind hp
    obtain ⟨others, ho, hp⟩ := ok_of_bind hp
    cases eq_of_pure_ok hp
    have hi := position_ok.1 hi
    refine ih hnext ho (by rw [List.length_set, hl]) fun c hc => ?_
    rcases hmem c hc with rfl | ⟨hc, hne⟩
    · rw [Column.component, read_set_self hi hl]
      exact hcol
    · rw [read_set_of_ne hi hne]
      exact hr c hc

theorem Admits.write {cols : List Column} {r : Row} (hr : s.Admits r)
    (h : s.calculate cols = .ok t) {slots : List Nat}
    (hp : t.positions (cols.map (·.name)) = .ok slots) {values : List Value}
    (hv : List.Forall₂ (fun (col : Column) v => v.conforms col.type = true) cols values) :
    t.Admits ((r.resize t.size).write (slots.zip values)) := by
  refine admits_of_reads (by simp) (read_assigned (calculate_ok h) hp hv (by simp) ?_)
  intro c hc
  have hn : c.name ∈ s.names := mem_names.2 ⟨c, hc, rfl⟩
  obtain ⟨i, hi⟩ := exists_indexOf? hn
  have hi' := (indexOf?_of_names (calculate_names h) hn).trans hi
  rw [read_of_indexOf? hi', Row.cell_resize (lt_of_indexOf? hi'), ← read_of_indexOf? hi]
  exact hr.read hc

theorem calculate_contains {cols : List Column} (h : s.calculate cols = .ok t) :
    ∀ n ∈ cols.map (·.name), n ∈ t.names := by
  intro n hn
  obtain ⟨col, hc, rfl⟩ := List.mem_map.1 hn
  exact assign_contains (calculate_ok h) (List.Subset.refl _) col hc

end Schema

namespace Schema

variable {s : Schema}

theorem checkValues_of_conform {cs : List Component} {r : Row} (h : Conform cs r) :
    checkValues cs r = .ok () := by
  induction h with
  | nil => rfl
  | cons hv _ ih => rw [checkValues, if_pos hv, ih]

theorem checkRows_of_admits {n : Nat} {seen : List Key} {rows : List Row}
    (hr : ∀ r ∈ rows, s.Admits r)
    (hd : rows.Pairwise fun q r =>
      Key.same (Row.key q s.identifierIndices) (Row.key r s.identifierIndices) = false)
    (hs : ∀ k ∈ seen, ∀ r ∈ rows, Key.same k (Row.key r s.identifierIndices) = false) :
    s.checkRows n seen rows = .ok () := by
  induction rows generalizing n seen with
  | nil => rfl
  | cons r rest ih =>
    obtain ⟨hr1, hr2⟩ := List.forall_mem_cons.1 hr
    obtain ⟨hd1, hd2⟩ := List.pairwise_cons.1 hd
    have hrow : s.checkRow n r = .ok () := by
      rw [checkRow, if_pos hr1.length_eq, checkValues_of_conform hr1]
    have hnew : (seen.any (Key.same · (Row.key r s.identifierIndices))) = false := by
      rw [List.any_eq_false]
      intro k hk
      rw [hs k hk r (List.mem_cons_self ..)]
      exact Bool.false_ne_true
    rw [checkRows, hrow]
    dsimp only [bind, Except.bind]
    rw [hnew, if_neg Bool.false_ne_true]
    refine ih hr2 hd2 fun k hk q hq => ?_
    rcases List.mem_cons.1 hk with rfl | hk
    · exact hd1 q hq
    · exact hs k hk q (List.mem_cons_of_mem _ hq)

theorem conform_of_checkValues {cs : List Component} {r : Row} (hl : r.length = cs.length)
    (h : checkValues cs r = .ok ()) : Conform cs r := by
  induction cs generalizing r with
  | nil =>
    cases List.length_eq_zero_iff.1 hl
    exact .nil
  | cons c cs ih =>
    cases r with
    | nil => cases hl
    | cons v vs =>
      unfold checkValues at h
      split at h
      · rename_i hv
        exact .cons hv (ih (Nat.succ.inj hl) h)
      · cases h

theorem admits_of_checkRow {n : Nat} {r : Row} (h : s.checkRow n r = .ok ()) : s.Admits r := by
  unfold checkRow at h
  split at h
  · rename_i hl
    exact conform_of_checkValues hl h
  · cases h

theorem checkRows_ok {n : Nat} {seen : List Key} {rows : List Row}
    (h : s.checkRows n seen rows = .ok ()) :
    (∀ r ∈ rows, s.Admits r) ∧
    (rows.Pairwise fun q r =>
      Key.same (Row.key q s.identifierIndices) (Row.key r s.identifierIndices) = false) ∧
    ∀ k ∈ seen, ∀ r ∈ rows, Key.same k (Row.key r s.identifierIndices) = false := by
  induction rows generalizing n seen with
  | nil =>
    exact ⟨fun _ hr => absurd hr List.not_mem_nil, .nil, fun _ _ _ hr => absurd hr List.not_mem_nil⟩
  | cons r rest ih =>
    obtain ⟨_, hrow, h⟩ := ok_of_bind h
    dsimp only at h
    split at h
    · cases h
    · rename_i hnew
      obtain ⟨hall, hpair, hseen⟩ := ih h
      obtain ⟨hkey, hseen⟩ := List.forall_mem_cons.1 hseen
      refine ⟨List.forall_mem_cons.2 ⟨admits_of_checkRow hrow, hall⟩,
        List.pairwise_cons.2 ⟨hkey, hpair⟩, fun k hk => List.forall_mem_cons.2 ⟨?_, hseen k hk⟩⟩
      have hk' := List.any_eq_false.1 (Bool.eq_false_iff.2 hnew) k hk
      exact Bool.eq_false_iff.2 hk'

end Schema

theorem Dataset.ofRows_of_conforms {s : Schema} {rows : List Row}
    (hc : Dataset.Conforms ⟨s, rows⟩) (hd : Dataset.Distinct ⟨s, rows⟩) :
    Dataset.ofRows s rows = .ok ⟨s, rows⟩ := by
  unfold Dataset.ofRows
  rw [Schema.checkRows_of_admits hc hd fun _ hk => absurd hk List.not_mem_nil]
  rfl

theorem Dataset.ofRows_ok {s : Schema} {rows : List Row} {d : Dataset}
    (h : Dataset.ofRows s rows = .ok d) :
    d.Conforms ∧ d.Distinct := by
  obtain ⟨_, hc, h⟩ := ok_of_bind h
  cases eq_of_pure_ok h
  obtain ⟨hall, hpair, _⟩ := Schema.checkRows_ok hc
  exact ⟨hall, hpair⟩

end Tabular
