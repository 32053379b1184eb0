import Tabular.Proofs.Safety.Rows

set_option autoImplicit false

namespace Tabular

namespace Dataset

theorem safe_rename {d : Dataset} {s : Schema} {pairs : List (String × String)} (hd : d.Conforms)
    (hs : d.schema.rename pairs = .ok s) : Safe Conforms (d.rename pairs) := by
  unfold rename
  rw [hs]
  change Conforms ⟨s, d.rows⟩
  intro r hr
  change Conform s.components r
  rw [Schema.rename_ok hs]
  refine List.forall₂_map_left_iff.2 ((hd r hr).imp fun c v hv => ?_)
  rw [Schema.renameComponent_type]
  exact hv

theorem safe_project {d : Dataset} {s : Schema} {names : List String} {keep : Bool}
    (hd : d.Conforms) (hs : d.schema.project names keep = .ok s) :
    Safe Conforms (d.project names keep) := by
  have hsub := Schema.project_components_subset hs
  obtain ⟨indices, hx⟩ := Schema.exists_positions fun n hn => Schema.names_subset hsub hn
  unfold project
  rw [hs]
  change Safe Conforms (liftModel (d.schema.positions s.names) >>= _)
  rw [hx]
  change Conforms ⟨s, d.rows.map (Row.project · indices)⟩
  intro r hr
  obtain ⟨q, hq, rfl⟩ := List.mem_map.1 hr
  exact (hd q hq).project hsub hx

theorem safe_filterRows {s : Schema} {condition : Scalar} (hc : condition.Typed s.Declares)
    (outer : Scope) {rows : List Row} (hr : ∀ r ∈ rows, s.Admits r) :
    Safe (fun kept => ∀ r ∈ kept, s.Admits r) (filterRows s condition outer rows) := by
  induction rows with
  | nil => exact hr
  | cons r rest ih =>
    obtain ⟨hr, hrest⟩ := List.forall_mem_cons.1 hr
    rw [filterRows]
    refine (hc.safe_eval (Scope.covers_ofRow hr outer)).bind fun v _ => ?_
    refine (ih hrest).bind fun kept hkept => ?_
    change ∀ q ∈ (if v.boolean? = some true then r :: kept else kept), s.Admits q
    split
    · exact List.forall_mem_cons.2 ⟨hr, hkept⟩
    · exact hkept

theorem safe_filter {d : Dataset} {condition : Scalar} (hd : d.Conforms)
    (hc : condition.Typed d.schema.Declares) (outer : Scope) :
    Safe Conforms (d.filter condition outer) :=
  (safe_filterRows hc outer hd).bind fun _ hr => hr

section
variable {s t : Schema} {columns : List CalcColumn} {slots : List Nat}

theorem columns_conform {values : List Value}
    (h : List.Forall₂ Value.Fits values ((columns.map (·.expression)).map Scalar.type?)) :
    List.Forall₂ (fun (col : Schema.Column) v => v.conforms col.type = true)
      (columns.map (·.column)) values := by
  rw [List.map_map, List.forall₂_map_right_iff] at h
  rw [List.forall₂_map_left_iff]
  refine List.Forall₂.flip (h.imp fun v col hv => ?_)
  exact hv.getD .string

theorem safe_calculateRow (hs : s.calculate (columns.map (·.column)) = .ok t)
    (hp : t.positions (columns.map (·.name)) = .ok slots)
    (hc : ∀ col ∈ columns, col.expression.Typed s.Declares) (outer : Scope) {r : Row}
    (hr : s.Admits r) : Safe t.Admits (calculateRow s columns slots t.size outer r) := by
  have hall : ∀ e ∈ columns.map (·.expression), Safe (fun v => v.Fits e.type?)
      (e.eval (Scope.ofRow s r outer)) := by
    intro e he
    obtain ⟨col, hcol, rfl⟩ := List.mem_map.1 he
    exact (hc col hcol).safe_eval (Scope.covers_ofRow hr outer)
  refine (Scalar.safe_evalAll hall).bind fun values hv => ?_
  rw [← columns_names] at hp
  exact hr.write hs hp (columns_conform hv)

theorem safe_calculateRows (hs : s.calculate (columns.map (·.column)) = .ok t)
    (hp : t.positions (columns.map (·.name)) = .ok slots)
    (hc : ∀ col ∈ columns, col.expression.Typed s.Declares) (outer : Scope) {rows : List Row}
    (hr : ∀ r ∈ rows, s.Admits r) :
    Safe (fun out => ∀ r ∈ out, t.Admits r)
      (calculateRows s columns slots t.size outer rows) := by
  induction rows with
  | nil => exact fun _ hq => absurd hq List.not_mem_nil
  | cons r rest ih =>
    obtain ⟨hr, hrest⟩ := List.forall_mem_cons.1 hr
    rw [calculateRows]
    refine (safe_calculateRow hs hp hc outer hr).bind fun q hq => ?_
    exact (ih hrest).bind fun out hout => List.forall_mem_cons.2 ⟨hq, hout⟩

/-- A calculation that adds identifiers checks its rows again; the keys of the source are enough to
    keep them distinct. -/
theorem safe_calculate {d : Dataset} (hd : d.Conforms) (hk : d.Distinct)
    (hs : d.schema.calculate (columns.map (·.column)) = .ok t)
    (hc : ∀ col ∈ columns, col.expression.Typed d.schema.Declares) (outer : Scope) :
    Safe Conforms (d.calculate columns outer) := by
  obtain ⟨slots, hp⟩ : ∃ slots, t.positions (columns.map (·.name)) = .ok slots := by
    refine Schema.exists_positions fun n hn => ?_
    rw [← columns_names] at hn
    exact Schema.calculate_contains hs n hn
  have hrows := safe_calculateRows hs hp hc outer hd
  unfold calculate
  rw [hs]
  change Safe Conforms (liftModel (t.positions (columns.map (·.name))) >>= _)
  rw [hp]
  change Safe Conforms (calculateRows d.schema columns slots t.size outer d.rows >>= _)
  refine hrows.with_ok.bind fun rows hr => ?_
  obtain ⟨hr, hrows⟩ := hr
  change Safe Conforms (if columns.any (·.role == .identifier) then
    liftModel (ofRows t rows) else pure ⟨t, rows⟩)
  split
  · rw [ofRows_of_conforms hrows (distinct_calculateRows hk hs hp hr)]
    exact hrows
  · exact hrows

end

theorem safe_windowResults {d : Dataset} (hd : d.Conforms) {calls : List WindowCall}
    {cols : List Schema.Column} (hw : d.schema.windowColumns calls = .ok cols)
    (hc : ∀ c ∈ calls, ∃ m, Window.Applies d.schema c m) :
    Safe (List.Forall₂ (fun (col : Schema.Column) vs => ∀ v ∈ vs, v.conforms col.type = true) cols)
      (d.windowResults calls) := by
  induction calls generalizing cols with
  | nil =>
    cases hw
    exact .nil
  | cons c rest ih =>
    obtain ⟨⟨m, hm⟩, hrest⟩ := List.forall_mem_cons.1 hc
    obtain ⟨source, hs, hw⟩ := ok_of_bind hw
    obtain ⟨others, ho, hw⟩ := ok_of_bind hw
    cases eq_of_pure_ok hw
    have he : source = m := by
      have hs := liftModel_ok hs
      rw [Schema.require, hm.source] at hs
      cases hs
      rfl
    subst he
    have hmem := (Schema.get?_eq_some.1 hm.source).1
    rw [windowResults]
    refine (Window.safe_evaluate hm fun r hr => (hd r hr).read hmem).bind fun vs hvs => ?_
    exact (ih ho hrest).bind fun more hmore => .cons hvs hmore

theorem getD_conforms {t : ScalarType} {vs : List Value} (h : ∀ v ∈ vs, v.conforms t = true)
    (i : Nat) : (vs.getD i .null).conforms t = true := by
  rw [List.getD_eq_getElem?_getD]
  exact WindowFunction.getD_conforms h fun v hv => List.mem_of_getElem? hv

theorem safe_windowed {d : Dataset} (hd : d.Conforms) {calls : List WindowCall} {s : Schema}
    (hs : d.schema.windowed calls = .ok s) (hc : ∀ c ∈ calls, ∃ m, Window.Applies d.schema c m) :
    Safe Conforms (d.windowed calls) := by
  obtain ⟨cols, hw, hcalc⟩ := Schema.windowed_ok hs
  have hn := Schema.windowColumns_names hw
  obtain ⟨slots, hp⟩ := Schema.exists_positions (Schema.calculate_contains hcalc)
  unfold windowed
  rw [hs]
  change Safe Conforms (liftModel (s.positions (calls.map (·.target))) >>= _)
  rw [← hn, hp]
  refine (safe_windowResults hd hw hc).bind fun results hr => ?_
  intro q hq
  obtain ⟨⟨i, r⟩, hm, rfl⟩ := List.mem_map.1 hq
  have hrow := hd r (List.of_mem_zip hm).2
  refine hrow.write hcalc hp ?_
  rw [List.forall₂_map_right_iff]
  exact hr.imp fun col vs hvs => getD_conforms hvs i

theorem safe_windowedOver {d : Dataset} (hd : d.Conforms) {calls : List WindowCall}
    {attributes : List String} {staged s : Schema} (hw : d.schema.windowed calls = .ok staged)
    (hc : ∀ c ∈ calls, ∃ m, Window.Applies d.schema c m)
    (hp : staged.project attributes false = .ok s) :
    Safe Conforms (d.windowedOver calls attributes) := by
  have hstaged : Safe (fun e => e.schema = staged ∧ e.Conforms) (d.windowed calls) :=
    (safe_windowed hd hw hc).imp fun e he hce => by
      have h := windowed_schema he
      rw [hw] at h
      cases h
      exact ⟨rfl, hce⟩
  refine hstaged.bind fun e he => ?_
  obtain ⟨rfl, hce⟩ := he
  split
  · exact hce
  · exact safe_project hce hp

theorem safe_calculateOver {d : Dataset} (hd : d.Conforms) (hk : d.Distinct)
    {calls : List WindowCall} {columns : List CalcColumn} {staged assigned s : Schema}
    (hw : d.schema.windowed calls = .ok staged)
    (hc : ∀ c ∈ calls, ∃ m, Window.Applies d.schema c m)
    (ha : staged.calculate (columns.map (·.column)) = .ok assigned)
    (hcol : ∀ col ∈ columns, col.expression.Typed staged.Declares)
    (hp : assigned.project (calls.map (·.target)) false = .ok s) (outer : Scope) :
    Safe Conforms (d.calculateOver calls columns outer) := by
  unfold calculateOver
  split
  · rename_i hn
    rw [List.isEmpty_iff.1 hn, Schema.windowed_nil] at hw
    cases hw
    exact safe_calculate hd hk ha hcol outer
  · have hstaged : Safe (fun e => e.schema = staged ∧ e.Distinct ∧ e.Conforms)
        (d.windowed calls) :=
      (safe_windowed hd hw hc).imp fun e he hce => by
        have h := windowed_schema he
        rw [hw] at h
        cases h
        exact ⟨rfl, distinct_windowed hk he, hce⟩
    refine hstaged.bind fun e he => ?_
    obtain ⟨rfl, hke, hce⟩ := he
    have hassigned : Safe (fun a => a.schema = assigned ∧ a.Conforms)
        (e.calculate columns outer) :=
      (safe_calculate hce hke ha hcol outer).imp fun a hea hca => by
        have h := (calculate_ok hea).1
        rw [ha] at h
        cases h
        exact ⟨rfl, hca⟩
    refine hassigned.bind fun a h => ?_
    obtain ⟨rfl, hca⟩ := h
    exact safe_project hca hp

end Dataset
end Tabular
