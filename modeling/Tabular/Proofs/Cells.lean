import Tabular.Proofs.Outcome
import Tabular.Transform.Rows

set_option autoImplicit false

namespace Tabular

theorem exists_zip_of_forall₂ {α β γ : Type} {R : α → β → Prop} {as : List α} {bs : List β}
    (hf : List.Forall₂ R as bs) {cs : List γ} {a : α} {c : γ} (h : (a, c) ∈ as.zip cs) :
    ∃ b, R a b ∧ (b, c) ∈ bs.zip cs := by
  induction hf generalizing cs with
  | nil => cases h
  | cons hab _ ih =>
    cases cs with
    | nil => cases h
    | cons d cs =>
      rcases List.mem_cons.1 h with heq | h
      · cases heq
        exact ⟨_, hab, List.mem_cons_self ..⟩
      · obtain ⟨b, hb, hm⟩ := ih h
        exact ⟨b, hb, List.mem_cons_of_mem _ hm⟩

theorem exists_zip_of_mem {α β : Type} {R : α → β → Prop} {as : List α} {bs : List β}
    (h : List.Forall₂ R as bs) {a : α} (ha : a ∈ as) : ∃ b, (a, b) ∈ as.zip bs ∧ R a b := by
  induction h with
  | nil => cases ha
  | @cons a' b' _ _ hab _ ih =>
    rcases List.mem_cons.1 ha with rfl | ha
    · exact ⟨b', List.mem_cons_self .., hab⟩
    · obtain ⟨b, hb, hab⟩ := ih ha
      exact ⟨b, List.mem_cons_of_mem _ hb, hab⟩

theorem mem_zip_map {α β γ : Type} (f : α → γ) {as : List α} {bs : List β} {a : α} {b : β}
    (h : (a, b) ∈ as.zip bs) : (f a, b) ∈ (as.map f).zip bs := by
  rw [List.zip_map_left]
  exact List.mem_map.2 ⟨_, h, rfl⟩

theorem mem_zip_iff {α β : Type} {xs : List α} (hx : xs.Nodup) {ys : List β} {p : Nat} {x : α}
    (h : xs[p]? = some x) (y : β) : (x, y) ∈ xs.zip ys ↔ ys[p]? = some y := by
  constructor
  · intro hm
    obtain ⟨k, hk⟩ := List.getElem?_of_mem hm
    obtain ⟨hxk, hyk⟩ := List.getElem?_zip_eq_some.1 hk
    have hlt : p < xs.length := (List.getElem?_eq_some_iff.1 h).1
    rw [(List.getElem?_inj hlt hx).1 (h.trans hxk.symm)]
    exact hyk
  · exact fun hy => List.mem_of_getElem? (List.getElem?_zip_eq_some.2 ⟨h, hy⟩)

namespace Schema

/-- The value of a named component in a row; null where there is none. -/
def read (s : Schema) (r : Row) (name : String) : Value :=
  match s.indexOf? name with
  | some i => Row.cell r i
  | none => .null

theorem indexOf?_eq_findIdx? (s : Schema) (n : String) :
    s.indexOf? n = s.names.findIdx? (· == n) := by
  rw [indexOf?, names, List.findIdx?_map]
  rfl

theorem mem_names {s : Schema} {n : String} : n ∈ s.names ↔ ∃ c ∈ s.components, c.name = n :=
  List.mem_map

theorem getElem?_of_indexOf? {s : Schema} {n : String} {i : Nat} (h : s.indexOf? n = some i) :
    ∃ c, s.components[i]? = some c ∧ c.name = n := by
  obtain ⟨hi, hn, _⟩ := List.findIdx?_eq_some_iff_getElem.1 h
  exact ⟨s.components[i], List.getElem?_eq_getElem hi, by simpa using hn⟩

theorem indexOf?_of_getElem? {s : Schema} {c : Component} {i : Nat}
    (h : s.components[i]? = some c) : s.indexOf? c.name = some i := by
  obtain ⟨hi, rfl⟩ := List.getElem?_eq_some_iff.1 h
  refine List.findIdx?_eq_some_iff_getElem.2 ⟨hi, by simp, ?_⟩
  intro j hj
  have hn : s.components[j].name ≠ s.components[i].name := by
    have hp := List.pairwise_iff_getElem.1 s.nodup j i (by simp; omega) (by simp [hi]) hj
    simpa using hp
  simpa using hn

theorem lt_of_indexOf? {s : Schema} {n : String} {i : Nat} (h : s.indexOf? n = some i) :
    i < s.size := by
  obtain ⟨c, hc, _⟩ := getElem?_of_indexOf? h
  exact (List.getElem?_eq_some_iff.1 hc).1

theorem indexOf?_inj {s : Schema} {m n : String} {i : Nat} (hm : s.indexOf? m = some i)
    (hn : s.indexOf? n = some i) : m = n := by
  obtain ⟨c, hc, rfl⟩ := getElem?_of_indexOf? hm
  obtain ⟨d, hd, rfl⟩ := getElem?_of_indexOf? hn
  rw [hc] at hd
  cases hd
  rfl

theorem exists_indexOf? {s : Schema} {n : String} (h : n ∈ s.names) :
    ∃ i, s.indexOf? n = some i := by
  obtain ⟨c, hc, rfl⟩ := mem_names.1 h
  obtain ⟨i, hi⟩ := List.getElem?_of_mem hc
  exact ⟨i, indexOf?_of_getElem? hi⟩

theorem mem_names_of_indexOf? {s : Schema} {n : String} {i : Nat} (h : s.indexOf? n = some i) :
    n ∈ s.names := by
  obtain ⟨c, hc, rfl⟩ := getElem?_of_indexOf? h
  exact mem_names.2 ⟨c, List.mem_of_getElem? hc, rfl⟩

theorem eq_of_name_eq {s : Schema} {c d : Component} (hc : c ∈ s.components)
    (hd : d ∈ s.components) (h : c.name = d.name) : c = d := by
  obtain ⟨i, hi⟩ := List.getElem?_of_mem hc
  obtain ⟨j, hj⟩ := List.getElem?_of_mem hd
  have hij := indexOf?_of_getElem? hi
  rw [h, indexOf?_of_getElem? hj] at hij
  cases hij
  rw [hi] at hj
  cases hj
  rfl

theorem get?_eq_some {s : Schema} {n : String} {c : Component} :
    s.get? n = some c ↔ c ∈ s.components ∧ c.name = n := by
  constructor
  · intro h
    exact ⟨List.mem_of_find?_eq_some h, by simpa using List.find?_some h⟩
  · rintro ⟨hc, rfl⟩
    cases hg : s.get? c.name with
    | none => simpa using List.find?_eq_none.1 hg c hc
    | some d =>
      have hd : d ∈ s.components := List.mem_of_find?_eq_some hg
      rw [eq_of_name_eq hd hc (by simpa using List.find?_some hg)]

theorem contains_iff {s : Schema} {n : String} : s.contains n = true ↔ n ∈ s.names := by
  rw [contains, Option.isSome_iff_exists, mem_names]
  simp only [get?_eq_some]

theorem mem_identifierNames {s : Schema} {n : String} :
    n ∈ s.identifierNames ↔ ∃ c ∈ s.components, c.isIdentifier = true ∧ c.name = n := by
  simp [identifierNames, identifiers, and_assoc]

theorem identifierNames_subset (s : Schema) : s.identifierNames ⊆ s.names := by
  intro n hn
  obtain ⟨c, hc, _, hcn⟩ := mem_identifierNames.1 hn
  exact mem_names.2 ⟨c, hc, hcn⟩

theorem position_ok {s : Schema} {n : String} {i : Nat} :
    s.position n = .ok i ↔ s.indexOf? n = some i := by
  unfold position
  cases s.indexOf? n <;> simp

theorem positions_ok {s : Schema} {ns : List String} {is : List Nat}
    (h : s.positions ns = .ok is) : List.Forall₂ (fun n i => s.indexOf? n = some i) ns is := by
  induction ns generalizing is with
  | nil =>
    cases h
    exact .nil
  | cons n ns ih =>
    obtain ⟨i, hi, h⟩ := ok_of_bind h
    obtain ⟨rest, hr, h⟩ := ok_of_bind h
    cases eq_of_pure_ok h
    exact .cons (position_ok.1 hi) (ih hr)

theorem mem_positions {s : Schema} {ns : List String} {is : List Nat}
    (h : s.positions ns = .ok is) {i : Nat} (hi : i ∈ is) :
    ∃ n ∈ ns, s.indexOf? n = some i :=
  exists_left_of_mem (positions_ok h) hi

theorem positions_nodup {s : Schema} {ns : List String} {is : List Nat}
    (h : s.positions ns = .ok is) (hn : ns.Nodup) : is.Nodup := by
  induction ns generalizing is with
  | nil =>
    cases h
    exact .nil
  | cons n ns ih =>
    obtain ⟨i, hi, h⟩ := ok_of_bind h
    obtain ⟨rest, hr, h⟩ := ok_of_bind h
    cases eq_of_pure_ok h
    obtain ⟨hnew, hn⟩ := List.nodup_cons.1 hn
    refine List.nodup_cons.2 ⟨fun hm => ?_, ih hr hn⟩
    obtain ⟨m, hm, hmi⟩ := mem_positions hr hm
    exact hnew (indexOf?_inj (position_ok.1 hi) hmi ▸ hm)

theorem exists_positions {s : Schema} {ns : List String} (h : ∀ n ∈ ns, n ∈ s.names) :
    ∃ is, s.positions ns = .ok is := by
  induction ns with
  | nil => exact ⟨[], rfl⟩
  | cons n ns ih =>
    obtain ⟨i, hi⟩ := exists_indexOf? (h n (List.mem_cons_self ..))
    obtain ⟨is, his⟩ := ih fun m hm => h m (List.mem_cons_of_mem _ hm)
    refine ⟨i :: is, ?_⟩
    rw [positions, position_ok.2 hi, his]
    rfl

theorem read_of_indexOf? {s : Schema} {n : String} {i : Nat} (h : s.indexOf? n = some i)
    (r : Row) : s.read r n = r.cell i := by
  rw [read, h]

theorem read_of_not_mem {s : Schema} {n : String} (h : n ∉ s.names) (r : Row) :
    s.read r n = .null := by
  unfold read
  split
  · rename_i i hi
    exact absurd (mem_names_of_indexOf? hi) h
  · rfl

theorem read_nulls (s : Schema) (k : Nat) (n : String) :
    s.read (List.replicate k .null) n = .null := by
  unfold read
  split
  · rw [Row.cell, List.getD_eq_getElem?_getD, List.getElem?_replicate]
    split <;> rfl
  · rfl

theorem cells_positions {s : Schema} {ns : List String} {is : List Nat}
    (h : s.positions ns = .ok is) (r : Row) : is.map r.cell = ns.map (s.read r) := by
  have hp := positions_ok h
  clear h
  induction hp with
  | nil => rfl
  | cons hi _ ih => rw [List.map_cons, List.map_cons, ih, read_of_indexOf? hi]

theorem indicesFrom_eq {s : Schema} (p : Component → Bool) (before : List Component)
    {cs : List Component} (h : before ++ cs = s.components) :
    indicesFrom p before.length cs =
      (cs.filter p).map fun c => (s.indexOf? c.name).getD 0 := by
  induction cs generalizing before with
  | nil => rfl
  | cons c cs ih =>
    have hc : s.components[before.length]? = some c := by simp [← h]
    have hr := ih (before ++ [c]) (by simpa using h)
    rw [List.length_append, List.length_singleton] at hr
    rw [indicesFrom, List.filter_cons]
    split
    · rw [List.map_cons, hr, indexOf?_of_getElem? hc]
      rfl
    · exact hr

theorem indices_eq (s : Schema) (p : Component → Bool) :
    indicesFrom p 0 s.components =
      (s.components.filter p).map fun c => (s.indexOf? c.name).getD 0 :=
  indicesFrom_eq p [] rfl

theorem cell_indexOf? {s : Schema} {c : Component} (hc : c ∈ s.components) (r : Row) :
    r.cell ((s.indexOf? c.name).getD 0) = s.read r c.name := by
  obtain ⟨i, hi⟩ := List.getElem?_of_mem hc
  rw [read, indexOf?_of_getElem? hi]
  rfl

theorem cells_indices (s : Schema) (p : Component → Bool) (r : Row) :
    (indicesFrom p 0 s.components).map r.cell =
      (s.components.filter p).map fun c => s.read r c.name := by
  rw [indices_eq, List.map_map]
  exact List.map_congr_left fun c hc => cell_indexOf? (List.mem_of_mem_filter hc) r

/-- In a row that lists values in the order of the components each is found under its name. -/
theorem read_of_mem_zip {s : Schema} {r : Row} {n : String} {v : Value}
    (h : (n, v) ∈ s.names.zip r) : s.read r n = v := by
  obtain ⟨i, hi⟩ := List.getElem?_of_mem h
  obtain ⟨hn, hv⟩ := List.getElem?_zip_eq_some.1 hi
  rw [names, List.getElem?_map, Option.map_eq_some_iff] at hn
  obtain ⟨c, hc, rfl⟩ := hn
  rw [read_of_indexOf? (indexOf?_of_getElem? hc), Row.cell, List.getD_eq_getElem?_getD, hv]
  rfl

theorem key_eq (s : Schema) (r : Row) :
    Row.key r s.identifierIndices = s.identifierNames.map (s.read r) := by
  rw [Row.key, identifierIndices, identifierNames, identifiers, List.map_map]
  exact s.cells_indices Component.isIdentifier r

theorem key_of_positions {s : Schema} {columns : List Nat}
    (h : s.positions s.identifierNames = .ok columns) (r : Row) :
    Row.key r columns = Row.key r s.identifierIndices := by
  rw [key_eq, Row.key, cells_positions h]

end Schema

namespace Row

theorem cell_eq_getElem {r : Row} {i : Nat} (h : i < r.length) : r.cell i = r[i] := by
  rw [cell, List.getD_eq_getElem?_getD, List.getElem?_eq_getElem h]
  rfl

theorem cell_of_le {r : Row} {i : Nat} (h : r.length ≤ i) : r.cell i = .null := by
  rw [cell, List.getD_eq_getElem?_getD, List.getElem?_eq_none h]
  rfl

theorem cell_set_self {r : Row} {i : Nat} (h : i < r.length) (v : Value) :
    Row.cell (r.set i v) i = v := by
  rw [cell_eq_getElem (by simpa using h)]
  simp

theorem cell_set_of_ne {r : Row} {i j : Nat} (h : i ≠ j) (v : Value) :
    Row.cell (r.set i v) j = r.cell j := by
  simp [cell, List.getD_eq_getElem?_getD, List.getElem?_set_ne h]

theorem cell_resize {r : Row} {i n : Nat} (h : i < n) : (r.resize n).cell i = r.cell i := by
  by_cases hi : i < r.length
  · rw [cell_eq_getElem (by simpa using h), cell_eq_getElem hi]
    simp only [resize]
    rw [List.getElem_append_left (by simp; omega), List.getElem_take]
  · rw [cell_of_le (Nat.le_of_not_lt hi), cell_eq_getElem (by simpa using h)]
    simp only [resize]
    rw [List.getElem_append_right (by simp; omega), List.getElem_replicate]

theorem cell_write_of_not_mem {r : Row} {slots : List (Nat × Value)} {i : Nat}
    (h : ∀ v, (i, v) ∉ slots) : (r.write slots).cell i = r.cell i := by
  induction slots generalizing r with
  | nil => rfl
  | cons p rest ih =>
    obtain ⟨j, v⟩ := p
    have hj : j ≠ i := fun he => h v (he ▸ List.mem_cons_self ..)
    rw [write, ih fun w hw => h w (List.mem_cons_of_mem _ hw), cell_set_of_ne hj]

theorem cell_write {r : Row} {slots : List (Nat × Value)} (hs : (slots.map Prod.fst).Nodup)
    {i : Nat} {v : Value} (h : (i, v) ∈ slots) (hi : i < r.length) :
    (r.write slots).cell i = v := by
  induction slots generalizing r with
  | nil => cases h
  | cons p rest ih =>
    obtain ⟨hn, hrest⟩ := List.nodup_cons.1 hs
    obtain ⟨j, w⟩ := p
    rcases List.mem_cons.1 h with heq | h
    · cases heq
      rw [write, cell_write_of_not_mem fun u hu => hn (List.mem_map.2 ⟨_, hu, rfl⟩),
        cell_set_self hi]
    · rw [write]
      exact ih hrest h (by rw [List.length_set]; exact hi)

end Row

namespace Schema

theorem read_project {s t : Schema} {is : List Nat} (h : s.positions t.names = .ok is) {n : String}
    (hn : n ∈ t.names) (r : Row) : t.read (r.project is) n = s.read r n := by
  obtain ⟨i, hi⟩ := exists_indexOf? hn
  have hc := cells_positions h r
  have hl : i < (r.project is).length := by
    rw [Row.project, hc, List.length_map, names, List.length_map]
    exact lt_of_indexOf? hi
  obtain ⟨c, hc', rfl⟩ := getElem?_of_indexOf? hi
  obtain ⟨hlt, hget⟩ := List.getElem?_eq_some_iff.1 hc'
  rw [read_of_indexOf? hi, Row.cell_eq_getElem hl]
  simp only [Row.project, hc, names, List.getElem_map, hget]

end Schema

namespace Schema

theorem indicesFrom_append (p : Component → Bool) (i : Nat) (cs ds : List Component) :
    indicesFrom p i (cs ++ ds) = indicesFrom p i cs ++ indicesFrom p (i + cs.length) ds := by
  induction cs generalizing i with
  | nil => rfl
  | cons c cs ih =>
    have hi : i + 1 + cs.length = i + (cs.length + 1) := by omega
    rw [List.cons_append, indicesFrom, indicesFrom, ih, List.length_cons, hi]
    split <;> rfl

theorem indicesFrom_all {p : Component → Bool} {cs : List Component} (h : ∀ c ∈ cs, p c = true)
    (i : Nat) : indicesFrom p i cs = List.range' i cs.length := by
  induction cs generalizing i with
  | nil => rfl
  | cons c cs ih =>
    obtain ⟨hc, h⟩ := List.forall_mem_cons.1 h
    rw [indicesFrom, if_pos hc, ih h, List.length_cons, List.range'_succ]

theorem indicesFrom_none {p : Component → Bool} {cs : List Component} (h : ∀ c ∈ cs, p c = false)
    (i : Nat) : indicesFrom p i cs = [] := by
  induction cs generalizing i with
  | nil => rfl
  | cons c cs ih =>
    obtain ⟨hc, h⟩ := List.forall_mem_cons.1 h
    rw [indicesFrom, if_neg (by rw [hc]; exact Bool.false_ne_true), ih h]

theorem indicesFrom_map {p : Component → Bool} {f : Component → Component}
    (h : ∀ c, p (f c) = p c) (i : Nat) (cs : List Component) :
    indicesFrom p i (cs.map f) = indicesFrom p i cs := by
  induction cs generalizing i with
  | nil => rfl
  | cons c cs ih => rw [List.map_cons, indicesFrom, indicesFrom, h, ih]

theorem length_indicesFrom (p : Component → Bool) (i : Nat) (cs : List Component) :
    (indicesFrom p i cs).length = (cs.filter p).length := by
  induction cs generalizing i with
  | nil => rfl
  | cons c cs ih =>
    rw [indicesFrom, List.filter_cons]
    split
    · rw [List.length_cons, List.length_cons, ih]
    · exact ih _

theorem key_append {s : Schema} {ids others : List Component} (hs : s.components = ids ++ others)
    (hi : ∀ c ∈ ids, c.isIdentifier = true) (ho : ∀ c ∈ others, c.isIdentifier = false) {key : Key}
    (hl : key.length = ids.length) (more : Row) :
    Row.key (key ++ more) s.identifierIndices = key := by
  rw [identifierIndices, hs, indicesFrom_append, indicesFrom_all hi, indicesFrom_none ho,
    List.append_nil, ← hl]
  refine List.ext_getElem (by simp [Row.key]) fun i h1 h2 => ?_
  have hlt : i < (key ++ more).length := by
    rw [List.length_append]
    omega
  simp only [Row.key, List.getElem_map, List.getElem_range']
  rw [show 0 + 1 * i = i by omega, Row.cell_eq_getElem hlt, List.getElem_append_left h2]

theorem identifiers_isIdentifier (s : Schema) : ∀ c ∈ s.identifiers, c.isIdentifier = true :=
  fun _ hc => (List.mem_filter.1 hc).2

theorem length_key (s : Schema) (r : Row) :
    (Row.key r s.identifierIndices).length = s.identifiers.length := by
  rw [Row.key, List.length_map, identifierIndices, length_indicesFrom]
  rfl

end Schema

theorem Component.not_isIdentifier_of_isMeasure {c : Component} (h : c.isMeasure = true) :
    c.isIdentifier = false := by
  unfold isMeasure at h
  rw [isIdentifier, eq_of_beq h]
  rfl

end Tabular
