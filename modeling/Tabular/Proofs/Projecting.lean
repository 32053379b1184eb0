import Tabular.Proofs.Lifting
import Tabular.Proofs.Stages

set_option autoImplicit false

namespace Tabular

namespace Schema

variable {s t : Schema} {names : List String}

theorem project_names_subset {keep : Bool} (h : s.project names keep = .ok t) :
    t.names ⊆ s.names := by
  intro n hn
  obtain ⟨c, hc, rfl⟩ := mem_names.1 hn
  exact mem_names.2 ⟨c, project_components_subset h hc, rfl⟩

theorem project_get? (h : s.project names true = .ok t) {n : String}
    (hn : n ∈ s.names → n ∈ names ∨ n ∈ s.identifierNames) : t.get? n = s.get? n := by
  cases hs : s.get? n with
  | none =>
    cases ht : t.get? n with
    | none => rfl
    | some c =>
      obtain ⟨hc, hname⟩ := get?_eq_some.1 ht
      have hsource := get?_eq_some.2 ⟨project_components_subset h hc, hname⟩
      exact absurd (hsource.symm.trans hs) (Option.some_ne_none c)
  | some c =>
    obtain ⟨hc, rfl⟩ := get?_eq_some.1 hs
    refine get?_eq_some.2 ⟨?_, rfl⟩
    rw [project_ok h, List.mem_filter, Bool.or_eq_true, beq_true, List.contains_iff_mem]
    refine ⟨hc, ?_⟩
    rcases hn (mem_names.2 ⟨c, hc, rfl⟩) with hlisted | hid
    · exact .inr hlisted
    · obtain ⟨d, hd, hi, hname⟩ := mem_identifierNames.1 hid
      exact .inl (eq_of_name_eq hd hc hname ▸ hi)

end Schema

namespace Dataset

variable {s t : Schema} {names : List String} {keep : Bool} {condition : Scalar}

theorem exists_project (h : s.project names keep = .ok t) :
    ∃ columns, s.positions t.names = .ok columns ∧
      ∀ rows, project ⟨s, rows⟩ names keep = .ok ⟨t, rows.map (Row.project · columns)⟩ := by
  obtain ⟨columns, hcolumns⟩ := Schema.exists_positions fun n hn => Schema.project_names_subset h hn
  refine ⟨columns, hcolumns, fun rows => ?_⟩
  rw [project, h]
  change liftModel (s.positions t.names) >>= _ = _
  rw [hcolumns]
  rfl

theorem eval_project (h : s.project names keep = .ok t) {columns : List Nat}
    (hcolumns : s.positions t.names = .ok columns)
    (hreads : ∀ n type, condition.Reads n type → n ∈ t.names) (outer : Scope) (r : Row) :
    condition.eval (Scope.ofRow t (r.project columns) outer) =
      condition.eval (Scope.ofRow s r outer) := by
  refine condition.eval_of_reads rfl fun n type hr => ?_
  have hn := hreads n type hr
  rw [Scope.ofRow_lookup hn, Scope.ofRow_lookup (Schema.project_names_subset h hn),
    Schema.read_project hcolumns hn]

theorem filterRows_project {columns : List Nat} {outer : Scope}
    (heval : ∀ r : Row, condition.eval (Scope.ofRow t (r.project columns) outer) =
      condition.eval (Scope.ofRow s r outer)) (rows : List Row) :
    filterRows t condition outer (rows.map (Row.project · columns)) =
      (filterRows s condition outer rows).map (List.map (Row.project · columns)) := by
  induction rows with
  | nil => rfl
  | cons r rest ih =>
    rw [List.map_cons, filterRows, filterRows, ih, heval]
    cases condition.eval (Scope.ofRow s r outer) with
    | error e => rfl
    | ok v =>
      cases filterRows s condition outer rest with
      | error e => rfl
      | ok kept =>
        change Except.ok (if _ then _ else _) = Except.ok (List.map _ (if _ then _ else _))
        rw [apply_ite (List.map (Row.project · columns))]
        rfl

/-- Rows are dropped alike before and after a projection: the same rows in the same order, or the
    error of the same row. -/
theorem filter_project {d : Dataset} (h : d.schema.project names keep = .ok t)
    (hreads : ∀ n type, condition.Reads n type → n ∈ t.names) (outer : Scope) :
    (d.project names keep >>= fun kept => kept.filter condition outer) =
      (d.filter condition outer >>= fun kept => kept.project names keep) := by
  obtain ⟨columns, hcolumns, hproject⟩ := exists_project h
  have hrows := filterRows_project (eval_project h hcolumns hreads outer) d.rows
  rw [hproject d.rows]
  change (filterRows t condition outer _ >>= _) = _
  rw [hrows, filter]
  cases filterRows d.schema condition outer d.rows with
  | error e => rfl
  | ok kept => exact (hproject kept).symm

end Dataset

namespace Compile

variable {c : Context} {config : Config} {env : Env} {e p : Expr} {names : List String}

theorem projectPlan_iff {source plan : Plan} {keep : Bool} :
    projectPlan source names keep = .ok plan ↔
      (∀ n ∈ names, source.schema.contains n = true) ∧
        ∃ t, source.schema.project names keep = .ok t ∧
          plan = .project source names keep t := by
  constructor
  · intro h
    obtain ⟨_, hthere, _⟩ := ok_of_bind h
    exact ⟨requireComponents_ok hthere, projectPlan_ok h⟩
  · rintro ⟨hthere, t, ht, rfl⟩
    have hnone : names.find? (fun n => !source.schema.contains n) = none := by
      refine List.find?_eq_none.2 fun n hn => ?_
      rw [hthere n hn]
      exact Bool.false_ne_true
    rw [projectPlan, requireComponents, hnone, ht]
    rfl

/-- The condition mentions no component that is dropped. -/
def Keeps (names : List String) (p : Expr) (s : Schema) : Prop :=
  ∀ n ∈ s.names, .identifier n ∈ p.mentions → n ∈ names ∨ n ∈ s.identifierNames

theorem Keeps.get? {s t : Schema} (h : Keeps names p s) (ht : s.project names true = .ok t)
    {n : String} (hn : .identifier n ∈ p.mentions) :
    (Frame.ofSchema t).get? n = (Frame.ofSchema s).get? n := by
  rw [Frame.get?_ofSchema, Frame.get?_ofSchema, Schema.project_get? ht fun hs => h n hs hn]

/-- The parts that both orders of the two clauses are compiled from. -/
structure Clauses (env : Env) (e p : Expr) (names : List String) (source : Plan) (t : Schema)
    (condition : Scalar) : Prop where
  operand : Compiles env [] e (.dataset source)
  listed : ∀ n ∈ names, source.schema.contains n = true
  kept : source.schema.project names true = .ok t
  compiled : Compiles env (Frame.ofSchema t) p (.scalar condition)
  truth : Typing.expect "filter" condition.type? .boolean = .ok ()

section
variable {x y : Position} {a : Compiled}

theorem compiles_filter_keep :
    Compiles env [] (.filter x (.keep y e names) p) a ↔ ∃ source t condition,
      Clauses env e p names source t condition ∧
        a = .dataset (.filter (.project source names true t) condition) := by
  constructor
  · intro h
    cases h with
    | filter hkeep hp htruth =>
      cases hkeep with
      | keep he hplan =>
        obtain ⟨hlisted, t, ht, rfl⟩ := projectPlan_iff.1 hplan
        exact ⟨_, t, _, ⟨he, hlisted, ht, hp, htruth⟩, rfl⟩
  · rintro ⟨source, t, condition, h, rfl⟩
    exact .filter (.keep h.operand (projectPlan_iff.2 ⟨h.listed, t, h.kept, rfl⟩)) h.compiled
      h.truth

theorem compiles_keep_filter
    (hkeeps : ∀ source, Compiles env [] e (.dataset source) → Keeps names p source.schema) :
    Compiles env [] (.keep x (.filter y e p) names) a ↔ ∃ source t condition,
      Clauses env e p names source t condition ∧
        a = .dataset (.project (.filter source condition) names true t) := by
  constructor
  · intro h
    cases h with
    | keep hfilter hplan =>
      cases hfilter with
      | filter he hp htruth =>
        obtain ⟨hlisted, t, ht, rfl⟩ := projectPlan_iff.1 hplan
        refine ⟨_, t, _, ⟨he, hlisted, ht, ?_, htruth⟩, rfl⟩
        exact hp.scalar_of_frame rfl fun n hn => ((hkeeps _ he).get? ht hn).symm
  · rintro ⟨source, t, condition, h, rfl⟩
    have hp : Compiles env (Frame.ofSchema source.schema) p (.scalar condition) :=
      h.compiled.scalar_of_frame rfl fun n hn => (hkeeps _ h.operand).get? h.kept hn
    exact .keep (.filter h.operand hp h.truth) (projectPlan_iff.2 ⟨h.listed, t, h.kept, rfl⟩)

end

theorem Clauses.reads {source : Plan} {t : Schema} {condition : Scalar}
    (h : Clauses env e p names source t condition) :
    ∀ n type, condition.Reads n type → n ∈ t.names := by
  intro n type hr
  obtain ⟨m, hm, hname, _⟩ := Frame.declares_of_ofSchema (h.compiled.reads n type hr)
  exact Schema.mem_names.2 ⟨m, hm, hname⟩

/-- Both are refused when they are compiled, or both fail with one error when they are evaluated, or
    both give the same structure and the same rows in the same order. -/
inductive SameOutcome : Except SessionError Binding → Except SessionError Binding → Prop
  | refused (a b : CompileError) : SameOutcome (.error (.compile a)) (.error (.compile b))
  | failed (error : EvalError) :
      SameOutcome (.error (.evaluation error)) (.error (.evaluation error))
  | given (d : Dataset) : SameOutcome (.ok (.dataset d)) (.ok (.dataset d))

section
variable {c' : Context} {today : Date} {i j : Expr}

theorem SameOutcome.of_plans {q r : Plan} (hq : compile ⟨c, config⟩ i = .ok (.dataset q))
    (hr : compile ⟨c, config⟩ j = .ok (.dataset r)) (h : q.eval c' today = r.eval c' today) :
    SameOutcome (resolve config c c' today i) (resolve config c c' today j) := by
  unfold resolve
  rw [hq, hr]
  dsimp only [Session.bindingOf]
  rw [h]
  cases r.eval c' today with
  | error err => exact .failed err
  | ok d => exact .given d

theorem SameOutcome.of_refused (hi : ∀ a, compile ⟨c, config⟩ i ≠ .ok a)
    (hj : ∀ a, compile ⟨c, config⟩ j ≠ .ok a) :
    SameOutcome (resolve config c c' today i) (resolve config c c' today j) := by
  unfold resolve
  cases hx : compile ⟨c, config⟩ i with
  | ok a => exact absurd hx (hi a)
  | error a =>
    cases hy : compile ⟨c, config⟩ j with
    | ok b => exact absurd hy (hj b)
    | error b => exact .refused a b

end

/-- Where the condition mentions no component that is dropped, keeping components and then filtering
    comes to the same as filtering and then keeping them. -/
theorem resolve_filter_keep
    (hkeeps : ∀ source, compile ⟨c, config⟩ e = .ok (.dataset source) →
      Keeps names p source.schema) (today : Date) (u v x y : Position) :
    SameOutcome (resolve config c c today (.filter u (.keep v e names) p))
      (resolve config c c today (.keep x (.filter y e p) names)) := by
  have hfirst : ∀ source, Compiles ⟨c, config⟩ [] e (.dataset source) →
      Keeps names p source.schema := fun source he => hkeeps source (compile_ok_iff.2 he)
  by_cases h : ∃ source t condition, Clauses ⟨c, config⟩ e p names source t condition
  · obtain ⟨source, t, condition, h⟩ := h
    refine SameOutcome.of_plans
      (compile_ok_iff.2 (compiles_filter_keep.2 ⟨source, t, condition, h, rfl⟩))
      (compile_ok_iff.2 ((compiles_keep_filter hfirst).2 ⟨source, t, condition, h, rfl⟩)) ?_
    rw [Plan.eval, Plan.eval, Plan.eval, Plan.eval]
    cases hd : source.eval c today with
    | error err => rfl
    | ok d =>
      have hschema : d.schema = source.schema := h.operand.agrees today d hd
      exact Dataset.filter_project (hschema ▸ h.kept) h.reads _
  · refine SameOutcome.of_refused (fun a ha => ?_) fun a ha => ?_
    · obtain ⟨source, t, condition, hparts, _⟩ := compiles_filter_keep.1 (compile_ok_iff.1 ha)
      exact h ⟨source, t, condition, hparts⟩
    · obtain ⟨source, t, condition, hparts, _⟩ :=
        (compiles_keep_filter hfirst).1 (compile_ok_iff.1 ha)
      exact h ⟨source, t, condition, hparts⟩

def noted : Dataset where
  schema := ⟨[.measure "note" .string, .identifier "k" .integer, .measure "m" .integer], by decide,
    by decide⟩
  rows := [[.string "a", .integer 1, .integer 5], [.string "b", .integer 2, .integer 7],
    [.null, .integer 3, .integer 2]]

def belowLimit : Expr := .binary {} (.compare .lt) (.name {} "m") (.name {} "limit")

set_option maxRecDepth 4000 in
theorem resolve_filter_keep_noted :
    (∃ d, resolve {} (limited.rebind [("D", noted)]) (limited.rebind [("D", noted)]) .epoch
        (.filter {} (.keep {} (.name {} "D") ["m"]) belowLimit) = .ok (.dataset d) ∧
      d.schema.names = ["k", "m"] ∧
      d.rows = [[.integer 1, .integer 5], [.integer 3, .integer 2]]) ∧
    ∀ today, SameOutcome
      (resolve {} (limited.rebind [("D", noted)]) (limited.rebind [("D", noted)]) today
        (.filter {} (.keep {} (.name {} "D") ["m"]) belowLimit))
      (resolve {} (limited.rebind [("D", noted)]) (limited.rebind [("D", noted)]) today
        (.keep {} (.filter {} (.name {} "D") belowLimit) ["m"])) := by
  refine ⟨⟨_, rfl, rfl, rfl⟩, fun today => ?_⟩
  refine resolve_filter_keep (fun source hsource => ?_) today {} {} {} {}
  cases hsource
  unfold Keeps
  decide

end Compile
end Tabular
