import Tabular.Proofs.Lifting.Rows
import Tabular.Proofs.Rebinding

set_option autoImplicit false

/-!
# Lifting is calculating row by row

An operation on a dataset gives, for every measure, what the same operation gives when it is
calculated on the component. The one is planned as an operation on joined rows and the other as
scalar expressions in the scope of a row, with connectives that leave out an operand and constants
that may have been folded; wherever the lifted operation succeeds the results are the same.
-/
namespace Tabular

namespace Compile

variable {c : Context} {config : Config} {env : Env} {slot : Slot}

theorem Frame.get?_ofSchema (s : Schema) (n : String) :
    (Frame.ofSchema s).get? n = (s.get? n).map fun m => (m.name, m.type) := by
  rw [Frame.get?, Frame.ofSchema, List.find?_map, Option.map_map]
  rfl

theorem known?_component (as : List Compiled) (m : Component) :
    ((as.map (·.component m)).map Compiled.scalar).map known? = as.map known? := by
  rw [List.map_map, List.map_map]
  refine List.map_congr_left fun a _ => ?_
  cases a <;> rfl

/-- The operands with what they are compiled to: the dataset in the open place, and scalars, which
    mention no component of it. -/
def Slot.Filled (env : Env) (source : Plan) (o : Option Expr) (a : Compiled) : Prop :=
  o = none ∧ a = .dataset source ∨
    ∃ e s, o = some e ∧ a = .scalar s ∧ Compiles env [] e (.scalar s) ∧
      ∀ n ∈ source.schema.names, .identifier n ∉ e.mentions

namespace Slot.Filled

variable {source : Plan} {os : List (Option Expr)} {as : List Compiled}

theorem plans_eq (h : List.Forall₂ (Slot.Filled env source) os as) :
    plans as = (os.filter Option.isNone).map fun _ => source := by
  induction h with
  | nil => rfl
  | cons ha _ ih =>
    rcases ha with ⟨rfl, rfl⟩ | ⟨e, s, rfl, rfl, _⟩
    · exact congrArg (source :: ·) ih
    · exact ih

theorem closed (h : List.Forall₂ (Slot.Filled env source) os as) {e : Scalar}
    (he : .scalar e ∈ as) (n : String) (t : ScalarType) : ¬ e.Reads n t := by
  obtain ⟨o, _, ⟨_, hd⟩ | ⟨_, s, _, hs, hc, _⟩⟩ := exists_left_of_mem h he
  · cases hd
  · cases hs
    exact hc.closed n t

theorem component (h : List.Forall₂ (Slot.Filled env source) os as) {m : Component}
    (hm : m ∈ source.schema.components) (q : Position) :
    List.Forall₂ (Compiles env (Frame.ofSchema source.schema)) (os.map (·.getD (.name q m.name)))
      ((as.map (·.component m)).map .scalar) := by
  rw [List.forall₂_map_left_iff, List.map_map, List.forall₂_map_right_iff]
  refine h.imp fun o a ha => ?_
  rcases ha with ⟨rfl, rfl⟩ | ⟨e, s, rfl, rfl, he, hn⟩
  · refine .name ?_
    rw [Env.name, Frame.get?_ofSchema, Schema.get?_eq_some.2 ⟨hm, rfl⟩]
    rfl
  · refine he.scalar_of_frame rfl fun n hmem => ?_
    have hnone : source.schema.get? n = none := by
      cases hg : source.schema.get? n with
      | none => rfl
      | some k =>
        obtain ⟨hk, hkn⟩ := Schema.get?_eq_some.1 hg
        exact absurd hmem (hn n (Schema.mem_names.2 ⟨k, hk, hkn⟩))
    rw [Frame.get?_ofSchema, hnone]
    rfl

theorem types (h : List.Forall₂ (Slot.Filled env source) os as) {m : Component}
    (hm : m ∈ source.schema.components) :
    (as.map (·.component m)).map Scalar.type? = as.map (operandType m.name) := by
  rw [List.map_map]
  refine List.map_congr_left fun a ha => ?_
  obtain ⟨o, _, ⟨_, rfl⟩ | ⟨_, s, _, rfl, _⟩⟩ := exists_left_of_mem h ha
  · change some m.type = (source.schema.get? m.name).map (·.type)
    rw [Schema.get?_eq_some.2 ⟨hm, rfl⟩]
    rfl
  · rfl

end Slot.Filled

theorem sharedMeasures_self (source : Plan) :
    sharedMeasures source [source] = source.schema.measures := by
  refine List.filter_eq_self.2 fun m hm => ?_
  obtain ⟨hm, hmeasure⟩ := List.mem_filter.1 hm
  rw [List.all_cons, List.all_nil, Schema.get?_eq_some.2 ⟨hm, rfl⟩, Bool.and_true]
  exact hmeasure

theorem items_replacing {source : Plan} {e : Component → Expr}
    (hplain : ∀ m p fn operand extent, e m ≠ .window p fn operand extent) (s : Component → Scalar)
    {ms : List Component} (hms : ms ⊆ source.schema.measures) (n : Nat) :
    Items source n (ms.map fun m => .mk m.name none (e m)) (ms.map fun m => (e m, s m))
      (ms.map fun m => ⟨Dataset.measureColumn s m, none⟩) := by
  induction ms with
  | nil => exact .nil n
  | cons m ms ih =>
    obtain ⟨hm, hrest⟩ := List.cons_subset.1 hms
    obtain ⟨hm, hmeasure⟩ := List.mem_filter.1 hm
    have hg : source.schema.get? m.name = some m := Schema.get?_eq_some.2 ⟨hm, rfl⟩
    have hcheck : checkItem source.schema m.name = .ok () := by
      rw [checkItem, hg, Option.any_some, Component.not_isIdentifier_of_isMeasure hmeasure]
      rfl
    have hrole : itemRole source.schema m.name none = .measure := by
      rw [itemRole, hg]
      exact eq_of_beq hmeasure
    rw [List.map_cons, List.map_cons, List.map_cons, Dataset.measureColumn, ← hrole]
    exact .plain hcheck (hplain m) (ih hrest)

theorem calculatePlan_replacing (source : Plan) (s : Component → Scalar) :
    ∃ t, calculatePlan source
        (source.schema.measures.map fun m => ⟨Dataset.measureColumn s m, none⟩) =
      .ok (.calculate source [] (source.schema.measures.map (Dataset.measureColumn s)) t) := by
  have hcols := @Dataset.measureColumn_replaces source.schema s
  obtain ⟨t, ht, _⟩ := Schema.calculate_replacing hcols
  have hcalls : (source.schema.measures.map fun m =>
      (⟨Dataset.measureColumn s m, none⟩ : Calculated)).filterMap (·.call) = [] := by
    rw [List.filterMap_map]
    exact List.filterMap_eq_nil_iff.2 fun _ _ => rfl
  have hcolumns : (source.schema.measures.map fun m =>
      (⟨Dataset.measureColumn s m, none⟩ : Calculated)).map (·.column) =
      source.schema.measures.map (Dataset.measureColumn s) := by
    rw [List.map_map]
    rfl
  refine ⟨t, ?_⟩
  unfold calculatePlan
  rw [hcalls, hcolumns]
  dsimp only
  rw [Schema.windowed_nil]
  change (evaluation (source.schema.calculate _) >>= _) = _
  rw [ht]
  change (evaluation (t.project [] false) >>= _) = _
  rw [Schema.project_nil]
  rfl

theorem exists_resolve_calculate {d : Expr} {source : Plan} {today : Date} {t : Dataset}
    (hd : compile ⟨c, config⟩ d = .ok (.dataset source)) (ht : source.eval c today = .ok t)
    {e : Component → Expr} (hplain : ∀ m p fn operand extent, e m ≠ .window p fn operand extent)
    {s : Component → Scalar} (hs : ∀ m ∈ source.schema.measures,
      Compiles ⟨c, config⟩ (Frame.ofSchema source.schema) (e m) (.scalar (s m)))
    {value : Row → Component → Value} (hv : ∀ r ∈ t.rows, ∀ m ∈ source.schema.measures,
      (s m).eval (.ofRow source.schema r (c.scope today)) = .ok (value r m)) (q : Position) :
    ∃ out, resolve config c c today (.calculate q d (source.schema.measures.map fun m =>
        .mk m.name none (e m))) = .ok (.dataset out) ∧
      out.schema.names = source.schema.names ∧
      List.Forall₂ (fun r u => (∀ n ∈ source.schema.identifierNames,
          out.schema.read u n = source.schema.read r n) ∧
        ∀ m ∈ source.schema.measures, out.schema.read u m.name = value r m) t.rows out.rows := by
  have hsource := compile_ok_iff.1 hd
  have hschema : t.schema = source.schema := hsource.agrees today t ht
  obtain ⟨planned, hplan⟩ := calculatePlan_replacing source s
  have hitems := items_replacing hplain s (List.Subset.refl source.schema.measures) 0
  rw [← hschema] at hv hs hplan hitems ⊢
  obtain ⟨out, hout, hnames, hrows⟩ := Dataset.exists_calculate hv
  have hbodies : ∀ i u, (i, u) ∈ t.schema.measures.map (fun m => (e m, s m)) →
      Compiles ⟨c, config⟩ (Frame.ofSchema source.schema) i (.scalar u) := by
    intro i u hiu
    obtain ⟨m, hm, heq⟩ := List.mem_map.1 hiu
    cases heq
    rw [← hschema]
    exact hs m hm
  have hcompile := compile_ok_iff.2 (Compiles.calculate (p := q) hsource hitems hbodies hplan)
  refine ⟨out, resolve_dataset_iff.2 ⟨_, hcompile, ?_⟩, hnames, hrows⟩
  rw [Plan.eval, ht]
  exact hout

/-- The column that holds the results for a measure: its own or, renamed, that of a truth value. -/
def liftedName (s : Schema) (measure : String) : String :=
  if s.contains measure then measure else Report.resultName

/-- Row for row the calculated dataset has the identifiers and the results of the lifted one. -/
structure SameResults (source : Schema) (lifted calculated : Dataset) : Prop where
  identifiers : lifted.schema.identifierNames = source.identifierNames
  columns : ∀ m ∈ source.measures, liftedName lifted.schema m.name ∈ lifted.schema.names
  names : calculated.schema.names = source.names
  rows : List.Forall₂ (fun r t =>
    (∀ n ∈ source.identifierNames, lifted.schema.read r n = calculated.schema.read t n) ∧
      ∀ m ∈ source.measures, lifted.schema.read r (liftedName lifted.schema m.name) =
        calculated.schema.read t m.name) lifted.rows calculated.rows

variable {source : Plan}

/-- The output for a measure of the only dataset among the operands. -/
def liftedOutput (source : Plan) (as : List Compiled) (op : Component → Operation)
    (m : Component) : MeasureOutput :=
  ⟨outputName (source.schema.measures.length == 1) m (op m), op m,
    as.map (operandSource m.name)⟩

theorem names_lifted {outs : List MeasureOutput} {t : Schema}
    (ht : MeasureMap.schema ⟨source.schema.identifiers, outs⟩ = .ok t) :
    t.names = source.schema.identifierNames ++ outs.map (·.name) := by
  rw [Schema.names, Schema.components_of_ofComponents ht, List.map_append, List.map_map]
  rfl

theorem identifierNames_lifted {outs : List MeasureOutput} {t : Schema}
    (ht : MeasureMap.schema ⟨source.schema.identifiers, outs⟩ = .ok t) :
    t.identifierNames = source.schema.identifierNames := by
  have hids : source.schema.identifiers.filter Component.isIdentifier = source.schema.identifiers :=
    List.filter_eq_self.2 source.schema.identifiers_isIdentifier
  have hmeasures : (outs.map fun o => Component.measure o.name o.operation.result).filter
      Component.isIdentifier = [] := by
    rw [List.filter_map]
    exact List.map_eq_nil_iff.2 (List.filter_eq_nil_iff.2 fun _ _ => nofun)
  rw [Schema.identifierNames, Schema.identifiers, Schema.components_of_ofComponents ht,
    List.filter_append, hids, hmeasures, List.append_nil]
  rfl

theorem read_lifted {outs : List MeasureOutput} {t : Schema}
    (ht : MeasureMap.schema ⟨source.schema.identifiers, outs⟩ = .ok t) (r : Row)
    (values : List Value) :
    (∀ n ∈ source.schema.identifierNames,
      t.read (source.schema.identifiers.map (fun i => source.schema.read r i.name) ++ values) n =
        source.schema.read r n) ∧
    ∀ n v, (n, v) ∈ (outs.map (·.name)).zip values →
      t.read (source.schema.identifiers.map (fun i => source.schema.read r i.name) ++ values) n =
        v := by
  have hzip : t.names.zip
      (source.schema.identifiers.map (fun i => source.schema.read r i.name) ++ values) =
      source.schema.identifiers.map (fun i => (i.name, source.schema.read r i.name)) ++
        (outs.map (·.name)).zip values := by
    rw [names_lifted ht, List.zip_append (by simp [Schema.identifierNames]),
      Schema.identifierNames, List.zip_map']
  refine ⟨fun n hn => ?_, fun n v h => ?_⟩
  · obtain ⟨i, hi, rfl⟩ := List.mem_map.1 hn
    refine Schema.read_of_mem_zip ?_
    rw [hzip]
    exact List.mem_append_left _ (List.mem_map.2 ⟨i, hi, rfl⟩)
  · refine Schema.read_of_mem_zip ?_
    rw [hzip]
    exact List.mem_append_right _ h

theorem measure_not_identifier {s : Schema} {m : Component} (hm : m ∈ s.measures) :
    m.name ∉ s.identifierNames := by
  intro hn
  obtain ⟨hm, hmeasure⟩ := List.mem_filter.1 hm
  obtain ⟨i, hi, hid, hin⟩ := Schema.mem_identifierNames.1 hn
  rw [Schema.eq_of_name_eq hi hm hin, Component.not_isIdentifier_of_isMeasure hmeasure] at hid
  cases hid

theorem liftedName_eq {as : List Compiled} {op : Component → Operation} {t : Schema}
    (ht : MeasureMap.schema ⟨source.schema.identifiers,
      source.schema.measures.map (liftedOutput source as op)⟩ = .ok t)
    {m : Component} (hm : m ∈ source.schema.measures) :
    liftedName t m.name = (liftedOutput source as op m).name := by
  have hnames := names_lifted ht
  rw [List.map_map] at hnames
  have hmem : (liftedOutput source as op m).name ∈ t.names := by
    rw [hnames]
    exact List.mem_append_right _ (List.mem_map.2 ⟨m, hm, rfl⟩)
  have hname : (liftedOutput source as op m).name =
    outputName (source.schema.measures.length == 1) m (op m) := rfl
  unfold liftedName
  unfold outputName at hname
  split at hname
  · rename_i halone
    rw [Bool.and_eq_true, Bool.and_eq_true] at halone
    split
    · -- The measure itself is gone, unless its name is the one that replaces it.
      rename_i hc
      have hc := Schema.contains_iff.1 hc
      rw [hnames] at hc
      rcases List.mem_append.1 hc with hid | hc
      · exact absurd hid (measure_not_identifier hm)
      · obtain ⟨k, hk, hkn⟩ := List.mem_map.1 hc
        obtain ⟨k', hsole⟩ := List.length_eq_one_iff.1 (eq_of_beq halone.1.1)
        rw [hsole] at hm hk
        cases List.mem_singleton.1 hm
        cases List.mem_singleton.1 hk
        exact hkn.symm
    · exact hname.symm
  · rw [hname, if_pos (Schema.contains_iff.2 (hname ▸ hmem))]

theorem sameResults {as : List Compiled} {op : Component → Operation}
    {value : Row → Component → Value} {rs : List Row} {lifted out : Dataset}
    (hlifted : MeasureMap.schema ⟨source.schema.identifiers,
      source.schema.measures.map (liftedOutput source as op)⟩ = .ok lifted.schema)
    (hrows : lifted.rows = rs.map fun r =>
      source.schema.identifiers.map (fun i => source.schema.read r i.name) ++
        source.schema.measures.map (value r))
    (hnames : out.schema.names = source.schema.names)
    (hout : List.Forall₂ (fun r u => (∀ n ∈ source.schema.identifierNames,
        out.schema.read u n = source.schema.read r n) ∧
      ∀ m ∈ source.schema.measures, out.schema.read u m.name = value r m) rs out.rows) :
    SameResults source.schema lifted out where
  identifiers := identifierNames_lifted hlifted
  columns m hm := by
    rw [liftedName_eq hlifted hm, names_lifted hlifted, List.map_map]
    exact List.mem_append_right _ (List.mem_map.2 ⟨m, hm, rfl⟩)
  names := hnames
  rows := by
    rw [hrows, List.forall₂_map_left_iff]
    refine hout.imp fun r u hru => ?_
    obtain ⟨hids, hmeasures⟩ := hru
    obtain ⟨hkey, hval⟩ := read_lifted hlifted r (source.schema.measures.map (value r))
    refine ⟨fun n hn => ?_, fun m hm => ?_⟩
    · rw [hkey n hn, hids n hn]
    · rw [liftedName_eq hlifted hm, hmeasures m hm]
      refine hval _ _ ?_
      rw [List.map_map, List.zip_map']
      exact List.mem_map.2 ⟨m, hm, rfl⟩

theorem Slot.fill_plain (slot : Slot) (q : Position) (e : Expr) (p : Position)
    (fn : WindowFunction) (operand : Expr) (extent : Extent) :
    slot.fill q e ≠ .window p fn operand extent := by
  cases slot <;> exact nofun

theorem Slot.filled {d : Expr} {p : Position} {a : Compiled}
    (hd : Compiles env [] d (.dataset source))
    (hothers : ∀ o, some o ∈ slot.operands → (∃ s, Compiles env [] o (.scalar s)) ∧
      ∀ n ∈ source.schema.names, .identifier n ∉ o.mentions)
    (h : Compiles env [] (slot.fill p d) a) :
    ∃ as, List.Forall₂ (Slot.Filled env source) slot.operands as ∧ slot.build env as = .ok a := by
  obtain ⟨as, has, hbuild⟩ := compiles_fill.1 h
  refine ⟨as, ?_, hbuild⟩
  rw [List.forall₂_map_left_iff] at has
  refine ((List.forall₂_and_left ..).2 ⟨fun _ ho => ho, has⟩).imp fun o a hoa => ?_
  obtain ⟨ho, ha⟩ := hoa
  cases o with
  | none =>
    have hu := unbounded_ok_iff.2 ha
    rw [Option.getD_none, hd.unbounded_ok] at hu
    cases hu
    exact .inl ⟨rfl, rfl⟩
  | some o =>
    obtain ⟨⟨s, hs⟩, hn⟩ := hothers o ho
    have hu := unbounded_ok_iff.2 ha
    rw [Option.getD_some, hs.unbounded_ok] at hu
    cases hu
    exact .inr ⟨o, s, rfl, rfl, hs, hn⟩

/-- The node over a component of the dataset, and the value that it has in the scope of a row. -/
theorem Slot.exists_component {as : List Compiled}
    (has : List.Forall₂ (Slot.Filled env source) slot.operands as) {m : Component}
    (hm : m ∈ source.schema.components) {op : Operation}
    (hop : slot.builder env.config.patterns (as.map known?) (as.map (operandType m.name)) =
      .ok op) (q : Position) :
    ∃ s, Compiles env (Frame.ofSchema source.schema) (slot.fill q (.name q m.name)) (.scalar s) ∧
      ∀ scope v, (Scalar.apply op (as.map (·.component m))).eval scope = .ok v →
        s.eval scope = .ok v := by
  have hlen : (as.map (·.component m)).length = slot.operands.length := by
    rw [List.length_map, has.length_eq]
  rw [← known?_component as m, ← Slot.Filled.types has hm] at hop
  obtain ⟨s, hs, heval⟩ := Slot.exists_scalar env hlen hop
  exact ⟨s, compiles_fill.2 ⟨_, Slot.Filled.component has hm q, hs⟩, heval⟩

/-- What is planned and evaluated for a node over a dataset: an operation for each measure, and its
    value for each row. -/
theorem Slot.lifted_ok {as : List Compiled} {plan : Plan} {today : Date} {lifted : Dataset}
    (has : List.Forall₂ (Slot.Filled env source) slot.operands as)
    (hbuild : slot.build env as = .ok (.dataset plan))
    (heval : plan.eval env.context today = .ok lifted) :
    ∃ op t os,
      (∀ m ∈ source.schema.measures,
        slot.builder env.config.patterns (as.map known?) (as.map (operandType m.name)) =
          .ok (op m)) ∧
      source.eval env.context today = .ok t ∧
      List.Forall₂ (fun a o => a.eval env.context today = .ok o) as os ∧
      os.filterMap Operand.dataset? = [t] ∧
      MeasureMap.evaluate ⟨source.schema.identifiers,
        source.schema.measures.map (liftedOutput source as op)⟩ today os = .ok lifted := by
  have hplans : plans as = [source] := by
    rw [Slot.Filled.plans_eq has, List.map_const', slot.open_once]
    rfl
  obtain ⟨_, outs, s, houts, _, heq⟩ := liftOver_ok (Slot.liftOver_of_build hbuild hplans)
  cases heq
  rw [sharedMeasures_self] at houts
  obtain ⟨op, hop, rfl⟩ := outputs_eq houts
  rw [Plan.eval] at heval
  obtain ⟨os, hos, hmap⟩ := ok_of_bind heval
  have ho := evalAll_forall₂ hos
  have hdatasets := evalAll_plans ho
  rw [hplans, Plan.evalAll, Plan.evalAll] at hdatasets
  obtain ⟨t, ht, hdatasets⟩ := ok_of_bind hdatasets
  exact ⟨op, t, os, hop, ht, ho, (Except.ok.inj hdatasets).symm, hmap⟩

/-- Wherever an operation on a dataset succeeds, the calculation of the same operation on every
    measure succeeds, with the same results row for row. -/
theorem calculate_of_lifted {d : Expr} {today : Date} {lifted : Dataset}
    (hd : compile ⟨c, config⟩ d = .ok (.dataset source))
    (hothers : ∀ o, some o ∈ slot.operands → (∃ s, compile ⟨c, config⟩ o = .ok (.scalar s)) ∧
      ∀ n ∈ source.schema.names, .identifier n ∉ o.mentions) (p q : Position)
    (h : resolve config c c today (slot.fill p d) = .ok (.dataset lifted)) :
    ∃ out, resolve config c c today (.calculate q d (source.schema.measures.map fun m =>
        .mk m.name none (slot.fill q (.name q m.name)))) = .ok (.dataset out) ∧
      SameResults source.schema lifted out := by
  simp only [compile_ok_iff] at hothers
  have hsource := compile_ok_iff.1 hd
  obtain ⟨plan, hplan, heval⟩ := resolve_dataset_iff.1 h
  obtain ⟨as, has, hbuild⟩ := Slot.filled hsource hothers (compile_ok_iff.1 hplan)
  obtain ⟨op, t, os, hop, ht, ho, hone, hmap⟩ := Slot.lifted_ok has hbuild heval
  have hts : t.schema = source.schema := hsource.agrees today t ht
  obtain ⟨value, hvalue, hrows⟩ := MeasureMap.evaluate_alone ho hone hmap
  rw [hts] at hrows
  have hcomponent : ∀ m ∈ source.schema.measures, ∃ s,
      Compiles ⟨c, config⟩ (Frame.ofSchema source.schema) (slot.fill q (.name q m.name))
        (.scalar s) ∧
      ∀ scope v, (Scalar.apply (op m) (as.map (·.component m))).eval scope = .ok v →
        s.eval scope = .ok v :=
    fun m hm => Slot.exists_component has (List.mem_of_mem_filter hm) (hop m hm) q
  have : Nonempty Scalar := ⟨.literal .null none⟩
  choose! s hs hseval using hcomponent
  have hschemas : ∀ u, .dataset u ∈ os → u.schema = source.schema := by
    intro u hu
    have hmem : u ∈ os.filterMap Operand.dataset? := List.mem_filterMap.2 ⟨_, hu, rfl⟩
    rw [hone, List.mem_singleton] at hmem
    rw [hmem, hts]
  have hv : ∀ r ∈ t.rows, ∀ m ∈ source.schema.measures,
      (s m).eval (.ofRow source.schema r (c.scope today)) = .ok (value r m) := by
    intro r hr m hm
    refine hseval m hm _ _ ?_
    have hargs := evalAll_component ho (fun e he => Slot.Filled.closed has he)
      (Schema.mem_names.2 ⟨m, List.mem_of_mem_filter hm, rfl⟩) hschemas r
    rw [Scalar.eval, hargs]
    exact hvalue r hr m hm
  obtain ⟨out, hout, hnames, hsame⟩ :=
    exists_resolve_calculate hd ht (fun m => slot.fill_plain q _) hs hv q
  exact ⟨out, hout, sameResults (MeasureMap.evaluate_schema hmap) hrows hnames hsame⟩

set_option maxRecDepth 4000 in
theorem calculate_of_lifted_limited :
    ∃ lifted, resolve {} limited limited .epoch
        (.binary {} (.compare .le) (.name {} "D") (.name {} "limit")) = .ok (.dataset lifted) ∧
      lifted.schema.names = ["k", "bool_var"] ∧
    ∃ out, resolve {} limited limited .epoch (.calculate {} (.name {} "D")
        [.mk "m" none (.binary {} (.compare .le) (.name {} "m") (.name {} "limit"))]) =
          .ok (.dataset out) ∧
      SameResults tally.schema lifted out := by
  have hrun : ∃ lifted, resolve {} limited limited .epoch
      (.binary {} (.compare .le) (.name {} "D") (.name {} "limit")) = .ok (.dataset lifted) ∧
      lifted.schema.names = ["k", "bool_var"] := ⟨_, rfl, rfl⟩
  obtain ⟨lifted, hlifted, hnames⟩ := hrun
  refine ⟨lifted, hlifted, hnames, ?_⟩
  have hd : compile ⟨limited, {}⟩ (.name {} "D") = .ok (.dataset (.named "D" tally.schema)) := rfl
  have hothers : ∀ o, some o ∈ (Slot.left (.compare .le) (.name {} "limit")).operands →
      (∃ s, compile ⟨limited, {}⟩ o = .ok (.scalar s)) ∧
        ∀ n ∈ tally.schema.names, .identifier n ∉ o.mentions := by
    intro o ho
    obtain rfl : o = .name {} "limit" := by simpa [Slot.operands] using ho
    exact ⟨⟨_, rfl⟩, by decide⟩
  exact calculate_of_lifted hd hothers {} {} hlifted

end Compile
end Tabular
