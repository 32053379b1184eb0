import Tabular.Proofs.Cells

set_option autoImplicit false

namespace Tabular.Schema

variable {s t : Schema}

theorem rename_ok {pairs : List (String × String)} (h : s.rename pairs = .ok t) :
    t.components = s.components.map (renameComponent pairs) := by
  obtain ⟨_, _, h⟩ := ok_of_bind h
  exact components_of_ofComponents (liftModel_ok h)

theorem renameComponent_isIdentifier (pairs : List (String × String)) (c : Component) :
    (renameComponent pairs c).isIdentifier = c.isIdentifier := by
  unfold renameComponent
  split <;> rfl

theorem renameComponent_type (pairs : List (String × String)) (c : Component) :
    (renameComponent pairs c).type = c.type := by
  unfold renameComponent
  split <;> rfl

theorem project_ok {names : List String} {keep : Bool} (h : s.project names keep = .ok t) :
    t.components =
      s.components.filter fun c => c.isIdentifier || names.contains c.name == keep := by
  obtain ⟨_, _, h⟩ := ok_of_bind h
  exact components_of_ofComponents (liftModel_ok h)

theorem project_components_subset {names : List String} {keep : Bool}
    (h : s.project names keep = .ok t) : t.components ⊆ s.components := by
  rw [project_ok h]
  exact List.filter_subset_self _

theorem project_identifierNames {names : List String} {keep : Bool}
    (h : s.project names keep = .ok t) : s.identifierNames ⊆ t.identifierNames := by
  intro n hn
  obtain ⟨c, hc, hi, rfl⟩ := mem_identifierNames.1 hn
  refine mem_identifierNames.2 ⟨c, ?_, hi, rfl⟩
  rw [project_ok h, List.mem_filter, hi]
  exact ⟨hc, rfl⟩

def Column.component (col : Column) : Component := ⟨col.name, col.type, col.role, none⟩

theorem assign_cons {cs cs' : List Component} {col : Column} {rest : List Column}
    (h : s.assign cs (col :: rest) = .ok cs') :
    col.name ∉ s.identifierNames ∧ ∃ next, s.assign next rest = .ok cs' ∧
      (col.name ∈ s.names ∧ next = replaceNamed col.component cs ∨
        col.name ∉ cs.map (·.name) ∧ next = cs ++ [col.component]) := by
  unfold assign at h
  dsimp only at h
  split at h
  · rename_i c hc
    split at h
    · cases h
    · rename_i hi
      obtain ⟨hm, hcn⟩ := get?_eq_some.1 hc
      refine ⟨fun hn => ?_, _, h, .inl ⟨mem_names.2 ⟨c, hm, hcn⟩, rfl⟩⟩
      obtain ⟨d, hd, hdi, hdn⟩ := mem_identifierNames.1 hn
      rw [eq_of_name_eq hd hm (hdn.trans hcn.symm)] at hdi
      exact hi hdi
  · rename_i hg
    split at h
    · cases h
    · rename_i ha
      refine ⟨fun hn => ?_, _, h, .inr ⟨?_, rfl⟩⟩
      · have hc := contains_iff.2 (s.identifierNames_subset hn)
        rw [contains, hg] at hc
        cases hc
      · simpa using ha

theorem names_replaceNamed (c : Component) (cs : List Component) :
    (replaceNamed c cs).map (·.name) = cs.map (·.name) := by
  rw [replaceNamed, List.map_map]
  refine List.map_congr_left fun d _ => ?_
  change (if d.name = c.name then c else d).name = d.name
  split
  · rename_i h
    exact h.symm
  · rfl

theorem mem_replaceNamed_of_ne {c d : Component} {cs : List Component} (hd : d ∈ cs)
    (h : d.name ≠ c.name) : d ∈ replaceNamed c cs :=
  List.mem_map.2 ⟨d, hd, if_neg h⟩

theorem assign_names {cs cs' : List Component} {cols : List Column}
    (h : s.assign cs cols = .ok cs') : cs.map (·.name) <+: cs'.map (·.name) := by
  induction cols generalizing cs with
  | nil =>
    cases h
    exact List.prefix_rfl
  | cons col rest ih =>
    obtain ⟨_, next, hr, ⟨_, rfl⟩ | ⟨_, rfl⟩⟩ := assign_cons h
    · have hp := ih hr
      rw [names_replaceNamed] at hp
      exact hp
    · have hp := ih hr
      rw [List.map_append] at hp
      exact (List.prefix_append ..).trans hp

theorem assign_not_identifier {cs cs' : List Component} {cols : List Column}
    (h : s.assign cs cols = .ok cs') : ∀ col ∈ cols, col.name ∉ s.identifierNames := by
  induction cols generalizing cs with
  | nil => exact fun _ hc => nomatch hc
  | cons col rest ih =>
    obtain ⟨hn, next, hr, _⟩ := assign_cons h
    exact List.forall_mem_cons.2 ⟨hn, ih hr⟩

theorem assign_mem {cs cs' : List Component} {cols : List Column} (h : s.assign cs cols = .ok cs')
    {c : Component} (hc : c ∈ cs) (hn : c.name ∉ cols.map (·.name)) : c ∈ cs' := by
  induction cols generalizing cs with
  | nil =>
    cases h
    exact hc
  | cons col rest ih =>
    obtain ⟨hne, hnr⟩ := not_or.1 (List.mem_cons.not.1 hn)
    obtain ⟨_, next, hr, ⟨_, rfl⟩ | ⟨_, rfl⟩⟩ := assign_cons h
    · exact ih hr (mem_replaceNamed_of_ne hc hne) hnr
    · exact ih hr (List.mem_append_left _ hc) hnr

theorem assign_contains {cs cs' : List Component} {cols : List Column}
    (h : s.assign cs cols = .ok cs') (hs : s.names ⊆ cs.map (·.name)) :
    ∀ col ∈ cols, col.name ∈ cs'.map (·.name) := by
  induction cols generalizing cs with
  | nil => exact fun _ hc => nomatch hc
  | cons col rest ih =>
    obtain ⟨_, next, hr, ⟨hm, rfl⟩ | ⟨_, rfl⟩⟩ := assign_cons h
    · refine List.forall_mem_cons.2 ⟨(assign_names h).subset (hs hm), ih hr ?_⟩
      rw [names_replaceNamed]
      exact hs
    · rw [List.forall_mem_cons]
      refine ⟨(assign_names hr).subset ?_, ih hr ?_⟩
      · rw [List.map_append]
        exact List.mem_append_right _ (List.mem_singleton.2 rfl)
      · rw [List.map_append]
        exact fun n hn => List.mem_append_left _ (hs hn)

/-- Of columns with distinct names each has its component in the result. -/
theorem assign_component {cs cs' : List Component} {cols : List Column}
    (h : s.assign cs cols = .ok cs') (hs : s.names ⊆ cs.map (·.name))
    (hn : (cols.map (·.name)).Nodup) : ∀ col ∈ cols, col.component ∈ cs' := by
  induction cols generalizing cs with
  | nil => exact fun _ hc => nomatch hc
  | cons col rest ih =>
    obtain ⟨hnew, hrest⟩ := List.nodup_cons.1 hn
    obtain ⟨_, next, hr, ⟨hm, rfl⟩ | ⟨_, rfl⟩⟩ := assign_cons h
    · refine List.forall_mem_cons.2 ⟨assign_mem hr ?_ hnew, ih hr ?_ hrest⟩
      · obtain ⟨d, hd, he⟩ := List.mem_map.1 (hs hm)
        exact List.mem_map.2 ⟨d, hd, if_pos he⟩
      · rw [names_replaceNamed]
        exact hs
    · refine List.forall_mem_cons.2 ⟨assign_mem hr ?_ hnew, ih hr ?_ hrest⟩
      · exact List.mem_append_right _ (List.mem_singleton.2 rfl)
      · rw [List.map_append]
        exact fun n hn => List.mem_append_left _ (hs hn)

theorem calculate_ok {cols : List Column} (h : s.calculate cols = .ok t) :
    s.assign s.components cols = .ok t.components := by
  obtain ⟨cs, hc, h⟩ := ok_of_bind h
  rw [components_of_ofComponents (liftModel_ok h), hc]

theorem calculate_names {cols : List Column} (h : s.calculate cols = .ok t) :
    s.names <+: t.names :=
  assign_names (calculate_ok h)

theorem indexOf?_of_names (h : s.names <+: t.names) {n : String} (hn : n ∈ s.names) :
    t.indexOf? n = s.indexOf? n := by
  obtain ⟨more, hm⟩ := h
  obtain ⟨i, hi⟩ := exists_indexOf? hn
  rw [hi, indexOf?_eq_findIdx?, ← hm, List.findIdx?_append, ← indexOf?_eq_findIdx?, hi]
  rfl

theorem calculate_identifierNames {cols : List Column} (h : s.calculate cols = .ok t) :
    s.identifierNames ⊆ t.identifierNames := by
  intro n hn
  obtain ⟨c, hc, hi, rfl⟩ := mem_identifierNames.1 hn
  refine mem_identifierNames.2 ⟨c, assign_mem (calculate_ok h) hc fun hm => ?_, hi, rfl⟩
  obtain ⟨col, hcol, he⟩ := List.mem_map.1 hm
  exact assign_not_identifier (calculate_ok h) col hcol (he ▸ hn)

theorem read_write {cols : List Column} (h : s.calculate cols = .ok t) {slots : List Nat}
    (hs : t.positions (cols.map (·.name)) = .ok slots) (r : Row) (values : List Value)
    {n : String} (hn : n ∈ s.names) (hc : n ∉ cols.map (·.name)) :
    t.read ((r.resize t.size).write (slots.zip values)) n = s.read r n := by
  obtain ⟨i, hi⟩ := exists_indexOf? hn
  have ht : t.indexOf? n = some i := (indexOf?_of_names (calculate_names h) hn).trans hi
  have hw : ∀ v, (i, v) ∉ slots.zip values := by
    intro v hv
    obtain ⟨m, hm, hmi⟩ := mem_positions hs (List.of_mem_zip hv).1
    exact hc (indexOf?_inj ht hmi ▸ hm)
  rw [read_of_indexOf? ht, read_of_indexOf? hi, Row.cell_write_of_not_mem hw,
    Row.cell_resize (lt_of_indexOf? ht)]

theorem read_write_self {ns : List String} {slots : List Nat} (hs : t.positions ns = .ok slots)
    (hn : ns.Nodup) {r : Row} (hr : r.length = t.size) {values : List Value}
    (hl : ns.length = values.length) {n : String} {v : Value} (h : (n, v) ∈ ns.zip values) :
    t.read (r.write (slots.zip values)) n = v := by
  obtain ⟨i, hi, hm⟩ := exists_zip_of_forall₂ (positions_ok hs) h
  have hfst : (slots.zip values).map Prod.fst = slots :=
    List.map_fst_zip (Nat.le_of_eq ((positions_ok hs).length_eq.symm.trans hl))
  have hnodup : ((slots.zip values).map Prod.fst).Nodup := by
    rw [hfst]
    exact positions_nodup hs hn
  rw [read_of_indexOf? hi]
  refine Row.cell_write hnodup hm ?_
  rw [hr]
  exact lt_of_indexOf? hi

theorem assign_replacing {cols : List Column}
    (h : ∀ col ∈ cols, ∃ c, s.get? col.name = some c ∧ c.isIdentifier = false)
    (cs : List Component) :
    ∃ cs', s.assign cs cols = .ok cs' ∧ cs'.map (·.name) = cs.map (·.name) := by
  induction cols generalizing cs with
  | nil => exact ⟨cs, rfl, rfl⟩
  | cons col rest ih =>
    obtain ⟨⟨c, hc, hi⟩, hrest⟩ := List.forall_mem_cons.1 h
    obtain ⟨cs', hcs, hn⟩ := ih hrest (replaceNamed col.component cs)
    refine ⟨cs', ?_, by rw [hn, names_replaceNamed]⟩
    rw [assign, hc]
    dsimp only
    rw [hi]
    exact hcs

theorem windowColumns_names {calls : List WindowCall} {cols : List Column}
    (h : s.windowColumns calls = .ok cols) : cols.map (·.name) = calls.map (·.target) := by
  induction calls generalizing cols with
  | nil =>
    cases h
    rfl
  | cons c rest ih =>
    obtain ⟨source, _, h⟩ := ok_of_bind h
    obtain ⟨more, hm, h⟩ := ok_of_bind h
    cases eq_of_pure_ok h
    rw [List.map_cons, List.map_cons, ih hm]

theorem windowed_ok {calls : List WindowCall} (h : s.windowed calls = .ok t) :
    ∃ cols, s.windowColumns calls = .ok cols ∧ s.calculate cols = .ok t :=
  ok_of_bind h

end Tabular.Schema
