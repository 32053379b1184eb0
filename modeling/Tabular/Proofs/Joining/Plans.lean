import Tabular.Proofs.Joining.Found
import Tabular.Proofs.Safety.Joins
import Tabular.Proofs.Safety.Plans

set_option autoImplicit false

namespace Tabular

namespace Dataset

theorem finds_rename {d : Dataset} {s : Schema} {pairs : List (String × String)}
    (hs : d.schema.rename pairs = .ok s) : Finds (d.rename pairs) := by
  unfold rename
  rw [hs]
  exact .ok _

theorem finds_project {d : Dataset} {s : Schema} {names : List String} {keep : Bool}
    (hs : d.schema.project names keep = .ok s) : Finds (d.project names keep) := by
  obtain ⟨indices, hx⟩ := Schema.exists_positions fun n hn =>
    Schema.names_subset (Schema.project_components_subset hs) hn
  unfold project
  rw [hs]
  change Finds (liftModel (d.schema.positions s.names) >>= _)
  rw [hx]
  exact .ok _

theorem finds_filter (d : Dataset) (condition : Scalar) (outer : Scope) :
    Finds (d.filter condition outer) := by
  have hrows : ∀ rows, Finds (filterRows d.schema condition outer rows) := by
    intro rows
    induction rows with
    | nil => exact .ok []
    | cons r rest ih => exact (condition.finds_eval _).bind fun _ _ => ih.bind fun _ _ => .ok _
  exact (hrows d.rows).bind fun _ _ => .ok _

theorem finds_ofRows (s : Schema) (rows : List Row) : Finds (liftModel (ofRows s rows)) := by
  have hvalues : ∀ cs (r : Row), Finds (liftModel (Schema.checkValues cs r)) := by
    intro cs r
    induction cs generalizing r with
    | nil => exact .ok _
    | cons c cs ih =>
      cases r with
      | nil => exact .ok _
      | cons v vs =>
        rw [Schema.checkValues]
        split
        · exact ih vs
        · exact .error fun h => by cases h
  have hrow : ∀ (i : Nat) (r : Row), Finds (liftModel (s.checkRow i r)) := by
    intro i r
    unfold Schema.checkRow
    split
    · exact hvalues _ _
    · exact .error fun h => by cases h
  have hrows : ∀ (i : Nat) (seen : List Key), Finds (liftModel (s.checkRows i seen rows)) := by
    induction rows with
    | nil => exact fun _ _ => .ok _
    | cons r rest ih =>
      intro i seen
      refine .lift_bind (hrow i r) fun _ _ => ?_
      dsimp only
      split
      · exact .error fun h => by cases h
      · exact ih _ _
  exact .lift_bind (hrows 0 []) fun _ _ => .ok _

theorem finds_calculate {d : Dataset} {s : Schema} {columns : List CalcColumn}
    (hs : d.schema.calculate (columns.map (·.column)) = .ok s) (outer : Scope) :
    Finds (d.calculate columns outer) := by
  have hcontains := Schema.calculate_contains hs
  rw [columns_names] at hcontains
  obtain ⟨slots, hp⟩ := Schema.exists_positions hcontains
  have hrows : ∀ rows, Finds (calculateRows d.schema columns slots s.size outer rows) := by
    intro rows
    induction rows with
    | nil => exact .ok []
    | cons r rest ih =>
      refine Finds.bind ?_ fun _ _ => ih.bind fun _ _ => .ok _
      exact (Scalar.finds_evalAll _ _).bind fun _ _ => .ok _
  unfold calculate
  rw [hs]
  change Finds (liftModel (s.positions (columns.map (·.name))) >>= _)
  rw [hp]
  refine (hrows d.rows).bind fun rows _ => ?_
  split
  · exact finds_ofRows s rows
  · exact .ok _

theorem finds_windowed {d : Dataset} {s : Schema} {calls : List WindowCall}
    (hs : d.schema.windowed calls = .ok s)
    (hc : ∀ c ∈ calls, ∃ m, Window.Applies d.schema c m) : Finds (d.windowed calls) := by
  have hcall : ∀ c ∈ calls, Finds (Window.evaluate d.rows d.schema c) := by
    intro c hm
    obtain ⟨m, happly⟩ := hc c hm
    obtain ⟨hmem, hname⟩ := Schema.get?_eq_some.1 happly.source
    obtain ⟨i, hi⟩ := Schema.exists_indexOf? (Schema.mem_names.2 ⟨m, hmem, hname⟩)
    obtain ⟨columns, hcols⟩ := Schema.exists_positions happly.partitions
    obtain ⟨orders, ho⟩ := Window.exists_sortColumns happly.orders
    unfold Window.evaluate
    rw [Schema.position_ok.2 hi, hcols, ho]
    exact (Window.finds_evaluatePartitions _).bind fun _ _ => .ok _
  have hresults : ∀ cs, (∀ c ∈ cs, Finds (Window.evaluate d.rows d.schema c)) →
      Finds (d.windowResults cs) := by
    intro cs hcs
    induction cs with
    | nil => exact .ok []
    | cons c rest ih =>
      obtain ⟨h, hrest⟩ := List.forall_mem_cons.1 hcs
      exact h.bind fun _ _ => (ih hrest).bind fun _ _ => .ok _
  obtain ⟨cols, hw, hcalc⟩ := Schema.windowed_ok hs
  obtain ⟨slots, hp⟩ := Schema.exists_positions (Schema.calculate_contains hcalc)
  rw [Schema.windowColumns_names hw] at hp
  unfold windowed
  rw [hs]
  change Finds (liftModel (s.positions (calls.map (·.target))) >>= _)
  rw [hp]
  exact (hresults calls hcall).bind fun _ _ => .ok _

theorem finds_windowedOver {d : Dataset} {calls : List WindowCall} {attributes : List String}
    {staged s : Schema} (hw : d.schema.windowed calls = .ok staged)
    (hc : ∀ c ∈ calls, ∃ m, Window.Applies d.schema c m)
    (hp : staged.project attributes false = .ok s) : Finds (d.windowedOver calls attributes) := by
  refine (finds_windowed hw hc).bind fun e he => ?_
  have hschema := windowed_schema he
  rw [hw] at hschema
  cases hschema
  split
  · exact .ok _
  · exact finds_project hp

theorem finds_calculateOver {d : Dataset} {calls : List WindowCall} {columns : List CalcColumn}
    {staged assigned s : Schema} (hw : d.schema.windowed calls = .ok staged)
    (hc : ∀ c ∈ calls, ∃ m, Window.Applies d.schema c m)
    (ha : staged.calculate (columns.map (·.column)) = .ok assigned)
    (hp : assigned.project (calls.map (·.target)) false = .ok s) (outer : Scope) :
    Finds (d.calculateOver calls columns outer) := by
  unfold calculateOver
  split
  · rename_i hn
    rw [List.isEmpty_iff.1 hn, Schema.windowed_nil] at hw
    cases hw
    exact finds_calculate ha outer
  · refine (finds_windowed hw hc).bind fun e he => ?_
    have hstaged := windowed_schema he
    rw [hw] at hstaged
    cases hstaged
    refine (finds_calculate ha outer).bind fun a hea => ?_
    have hassigned := (calculate_ok hea).1
    rw [ha] at hassigned
    cases hassigned
    exact finds_project hp

end Dataset

theorem SetOp.finds_evaluate (op : SetOp) {first : Dataset} {rest : List Dataset}
    (h : ∀ d ∈ rest, first.schema.compatible d.schema = true) :
    Finds (op.evaluate (first :: rest)) := by
  obtain ⟨head, hh⟩ := exists_aligned (List.Subset.refl first.schema.components)
  obtain ⟨sides, hs⟩ := exists_alignedAll fun d hd => subset_of_compatible (h d hd)
  unfold evaluate
  dsimp only
  rw [hh, hs]
  exact .ok _

open Compile in
theorem MeasureMap.finds_evaluate (today : Date) {compiled : List Compiled}
    {operands : List Operand} (hy : List.Forall₂ Compiled.Shaped compiled operands)
    {first : Dataset} (hf : operands.findSome? Operand.dataset? = some first) {m : MeasureMap}
    {s : Schema} (hs : m.schema = .ok s) (hi : m.identifiers = first.schema.identifiers)
    (hids : ∀ d, Operand.dataset d ∈ operands →
      ∀ n ∈ first.schema.identifierNames, n ∈ d.schema.names)
    (ho : ∀ o ∈ m.outputs, ∃ measure, o.sources = compiled.map (operandSource measure) ∧
      ∀ p, Compiled.dataset p ∈ compiled → measure ∈ p.schema.names) :
    Finds (m.evaluate today operands) := by
  have hnames : m.identifiers.map (·.name) = first.schema.identifierNames := by
    rw [hi]
    rfl
  have hvalues : ∀ parts outs, Finds (outputValues today parts outs) := by
    intro parts outs
    induction outs with
    | nil => exact .ok []
    | cons o rest ih =>
      exact (o.1.operation.finds_call today _).bind fun _ _ => ih.bind fun _ _ => .ok _
  have hrows : ∀ sides columns outs rs, Finds (rows today sides columns outs rs) := by
    intro sides columns outs rs
    induction rs with
    | nil => exact .ok []
    | cons r rest ih =>
      unfold rows
      dsimp only
      split
      · exact ih
      · exact (hvalues _ _).bind fun _ _ => ih.bind fun _ _ => .ok _
  obtain ⟨ss, hss⟩ := exists_sides false hids
  obtain ⟨columns, hc, _⟩ := exists_outputColumns hy ho
  obtain ⟨leading, hl⟩ := Schema.exists_positions fun n hn => first.schema.identifierNames_subset hn
  unfold evaluate
  rw [hs, hf, hnames]
  change Finds (liftModel (sides first.schema.identifierNames false operands) >>= _)
  rw [hss]
  change Finds (liftModel (outputColumns operands m.outputs) >>= _)
  rw [hc]
  change Finds (liftModel (first.schema.positions first.schema.identifierNames) >>= _)
  rw [hl]
  exact (hrows _ _ _ _).bind fun _ _ => .ok _

theorem DatapointCheck.finds_evaluate {c : DatapointCheck} {d : Dataset} {s : Schema}
    (hs : c.schema d.schema = .ok s) (outer : Scope) : Finds (c.evaluate outer d) := by
  unfold evaluate
  rw [hs]
  exact (c.finds_reportRows _ _ _ _).bind fun _ _ => .ok _

theorem HierarchyCheck.finds_evaluate {c : HierarchyCheck} {d : Dataset} {s : Schema}
    (hs : c.schema d.schema = .ok s) (hc : c.target.component ∈ d.schema.names)
    (hm : c.target.measure ∈ d.schema.names) : Finds (c.evaluate d) := by
  obtain ⟨i, hi⟩ := Schema.exists_indexOf? hc
  obtain ⟨j, hj⟩ := Schema.exists_indexOf? hm
  unfold evaluate rows columns
  rw [hs, Schema.position_ok.2 hi, Schema.position_ok.2 hj]
  exact (c.finds_reportGroups _ _ _).bind fun _ _ => .ok _

namespace Check

theorem finds_soleMeasure (s : Schema) (dataset : String) (accept : ScalarType → Bool)
    (expected : String) : Finds (soleMeasure s dataset accept expected) := by
  unfold soleMeasure
  split
  · split <;> exact nofun
  · exact nofun

theorem finds_evaluate {c : Check} {d : Dataset} {other : Option Dataset}
    (hschema : ∀ type, imbalanceType other = .ok type → ∃ s, schema d.schema type = .ok s)
    (hids : ∀ e, other = some e → ∀ n ∈ d.schema.identifierNames, n ∈ e.schema.names)
    (outer : Scope) : Finds (c.evaluate outer d other) := by
  have hmeasure : ∀ {s : Schema} {m}, m ∈ s.measures → ∃ i, s.position m.name = .ok i := by
    intro s m hm
    have hname := Schema.mem_names.2 ⟨m, List.mem_of_mem_filter hm, rfl⟩
    obtain ⟨i, hi⟩ := Schema.exists_indexOf? hname
    exact ⟨i, Schema.position_ok.2 hi⟩
  have htype : Finds (imbalanceType other) := by
    cases other with
    | none => exact .ok none
    | some e => exact (finds_soleMeasure _ _ _ _).bind fun _ _ => .ok _
  have hcolumn : Finds (conditionColumn d.schema) := by
    unfold conditionColumn
    split
    · exact nofun
    · rename_i m rest hms
      obtain ⟨i, hi⟩ := hmeasure (hms ▸ List.mem_cons_self .. : m ∈ d.schema.measures)
      rw [hi]
      exact .ok i
  have hothers : Finds (imbalances d.schema other) := by
    cases other with
    | none => exact .ok []
    | some e =>
      refine (finds_soleMeasure _ _ _ _).bind fun m hm => ?_
      have hsole := (Schema.soleMeasure?_ok (soleMeasure_ok hm).1).1
      obtain ⟨i, hi⟩ := hmeasure (hsole ▸ List.mem_singleton.2 rfl : m ∈ e.schema.measures)
      obtain ⟨ids, hx⟩ := Schema.exists_positions (hids e rfl)
      rw [hi, hx]
      exact .ok _
  refine htype.bind fun type ht => ?_
  obtain ⟨s, hs⟩ := hschema type ht
  rw [hs]
  change Finds (c.rows outer d other >>= _)
  refine Finds.bind (hcolumn.bind fun column _ => hothers.bind fun others _ => ?_) fun _ _ => .ok _
  exact c.finds_reportRows _ _ _ _ _

end Check
end Tabular
