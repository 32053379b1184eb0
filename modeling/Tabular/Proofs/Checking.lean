import Tabular.Proofs.Filtering
import Tabular.Proofs.Lifting
import Tabular.Proofs.Stages

set_option autoImplicit false

namespace Tabular

theorem Value.order_false (v : Value) :
    v.order (.boolean false) = .eq ↔ v.boolean? = some false := by
  cases v with
  | boolean b => cases b <;> decide
  | _ => exact ⟨nofun, nofun⟩

namespace Check

variable {code level : Scalar} {s t : Schema} {column : Nat} {others : Keyed Value} {outer : Scope}
  {r : Row}

def failed : Scalar :=
  .apply (.compare .eq) [.read Report.resultName .boolean, .ofValue (.boolean false)]

theorem eval_failed {scope : Scope} {v : Value} (h : scope.lookup Report.resultName = some v) :
    ∃ w, failed.eval scope = .ok w ∧ (w.boolean? = some true ↔ v.boolean? = some false) := by
  have hcall : failed.eval scope = (Operation.compare .eq).call scope.today [v, .boolean false] := by
    rw [failed, Scalar.eval, Scalar.evalAll, Scalar.eval, h]
    rfl
  rw [hcall]
  have hiff : (Value.boolean (Comparison.eq.holds (v.order (.boolean false)))).boolean? = some true ↔
      v.boolean? = some false := by
    rw [← v.order_false, Value.boolean?, Option.some_inj, Comparison.holds, beq_iff_eq]
  cases v with
  | null => exact ⟨.null, rfl, by decide⟩
  | _ => exact ⟨_, rfl, hiff⟩

theorem lookup_result {type : Option ScalarType} (ht : schema s type = .ok t) (r : Row)
    (holds : Value) (more : List Value) (outer : Scope) :
    (Scope.ofRow t (Row.key r s.identifierIndices ++ holds :: more) outer).lookup
      Report.resultName = some holds := by
  have hnames : t.names = s.identifierNames ++
      [Report.resultName, Report.imbalanceName, Report.codeName, Report.levelName] := by
    rw [Schema.names, Schema.components_of_ofComponents ht, List.append_assoc, List.map_append]
    rfl
  have hlen : s.identifierNames.length = (Row.key r s.identifierIndices).length := by
    rw [Schema.length_key, Schema.identifierNames, List.length_map]
  rw [Scope.ofRow_lookup]
  · refine congrArg some (Schema.read_of_mem_zip ?_)
    rw [hnames, List.zip_append hlen]
    exact List.mem_append_right _ (List.mem_cons_self ..)
  · rw [hnames]
    exact List.mem_append_right _ (List.mem_cons_self ..)

/-- The full check reports every row, unless the code or the level of a failure cannot be
    evaluated. -/
theorem reportRow_all_ok {row : Option Row}
    (h : reportRow ⟨code, level, .all⟩ s column others outer r = .ok row) :
    ∃ more, row = some (Row.key r s.identifierIndices ++ Row.cell r column :: more) := by
  unfold reportRow at h
  obtain ⟨errors, _, h⟩ := ok_of_bind h
  exact ⟨_, (eq_of_pure_ok h).symm.trans (by rw [List.append_assoc]; rfl)⟩

theorem reportRow_invalid :
    reportRow ⟨code, level, .invalid⟩ s column others outer r =
      (reportRow ⟨code, level, .all⟩ s column others outer r).map fun row =>
        if (Row.cell r column).boolean? = some false then row else none := by
  unfold reportRow
  dsimp only
  by_cases h : (Row.cell r column).boolean? = some false
  · simp only [if_pos h]
    rw [h]
    exact (congrFun Except.map_id _).symm
  · have hholds : ((Row.cell r column).boolean? == some false) = false := beq_eq_false_iff_ne.2 h
    have hreports : OutputMode.invalid.reports (Row.cell r column).boolean? = false := hholds
    rw [hholds, hreports]
    simp only [if_neg h]
    rfl

theorem filterRows_report {type : Option ScalarType} (ht : schema s type = .ok t) (holds : Value)
    (more : List Value) (reports : List Row) :
    Dataset.filterRows t failed outer ((Row.key r s.identifierIndices ++ holds :: more) :: reports) =
      (Dataset.filterRows t failed outer reports).map fun kept =>
        if holds.boolean? = some false then
          (Row.key r s.identifierIndices ++ holds :: more) :: kept
        else kept := by
  obtain ⟨w, hw, hiff⟩ := eval_failed (lookup_result ht r holds more outer)
  rw [Dataset.filterRows_cons hw]
  simp only [hiff]

/-- Row by row the failures are what the filter keeps of the full report. -/
theorem reportRows_invalid {type : Option ScalarType} (ht : schema s type = .ok t)
    (rows : List Row) :
    reportRows ⟨code, level, .invalid⟩ s column others outer rows =
      reportRows ⟨code, level, .all⟩ s column others outer rows >>=
        Dataset.filterRows t failed outer := by
  induction rows with
  | nil => rfl
  | cons r rest ih =>
    rw [reportRows, reportRows, ih, reportRow_invalid]
    cases hrow : reportRow ⟨code, level, .all⟩ s column others outer r with
    | error e => rfl
    | ok row =>
      obtain ⟨more, rfl⟩ := reportRow_all_ok hrow
      cases reportRows ⟨code, level, .all⟩ s column others outer rest with
      | error e => rfl
      | ok reports =>
        change (Dataset.filterRows t failed outer reports >>= _) =
          Dataset.filterRows t failed outer (_ :: reports)
        rw [filterRows_report ht]
        cases Dataset.filterRows t failed outer reports with
        | error e => rfl
        | ok kept =>
          refine congrArg Except.ok ?_
          split <;> rfl

theorem evaluate_invalid (code level : Scalar) (outer : Scope) (d : Dataset)
    (other : Option Dataset) :
    evaluate ⟨code, level, .invalid⟩ outer d other =
      evaluate ⟨code, level, .all⟩ outer d other >>= fun reports => reports.filter failed outer := by
  unfold evaluate rows
  simp only [bind_assoc, pure_bind]
  refine Paired.eq (.bind_same _ fun type => .bind_ok _ fun t ht => .bind_same _ fun column =>
    .bind_same _ fun others => ?_)
  rw [reportRows_invalid (liftModel_ok ht), bind_assoc]
  exact .refl (fun _ => rfl) _

end Check

namespace Compile

variable {env : Env} {config : Config} {c c' : Context}

def resultFalse (p q r : Position) : Expr :=
  .binary p (.compare .eq) (.name q Report.resultName) (.literal r (.boolean false))

theorem compiles_resultFalse {s t : Schema} {type : Option ScalarType}
    (ht : Check.schema s type = .ok t) (p q r : Position) :
    Compiles env (Frame.ofSchema t) (resultFalse p q r) (.scalar Check.failed) := by
  have hresult : t.get? Report.resultName = some Report.result := by
    refine Schema.get?_eq_some.2 ⟨?_, rfl⟩
    rw [Schema.components_of_ofComponents ht]
    simp
  have hname : env.name (Frame.ofSchema t) Report.resultName =
      .ok (.scalar (.read Report.resultName .boolean)) := by
    rw [Env.name, Frame.get?_ofSchema, hresult]
    rfl
  refine .binary (.name hname) .literal ?_
  change Except.ok (env.fold (.scalar Check.failed)) = _
  rw [Env.fold]
  cases env.config.foldConstants <;> rfl

theorem resolve_eq {e e' : Expr} {p p' : Plan} {today : Date}
    (h : compile ⟨c, config⟩ e = .ok (.dataset p)) (h' : compile ⟨c, config⟩ e' = .ok (.dataset p'))
    (heval : p.eval c' today = p'.eval c' today) :
    resolve config c c' today e = resolve config c c' today e' := by
  unfold resolve
  rw [h, h']
  simp only [Session.bindingOf, heval]

/-- What a check gives with failures only is what the full check gives once it is filtered: the
    same reports in the same order, or the same error. -/
theorem resolve_check_invalid {p : Position} {e : Expr} {code level imbalance : Option Expr}
    {invalid : Bool} {a : Compiled}
    (h : compile ⟨c, config⟩ (.check p e code level imbalance invalid) = .ok a)
    (u v x y z w : Position) :
    (∃ plan, compile ⟨c, config⟩ (.check u e code level imbalance true) =
        .ok (.dataset plan)) ∧
      ∀ c' today, resolve config c c' today (.check u e code level imbalance true) =
        resolve config c c' today
          (.filter v (.check x e code level imbalance false) (resultFalse y z w)) := by
  cases compile_ok_iff.1 h with
  | @check _ _ _ _ _ _ _ condition _ other type k l _ he hmeasure hsome hother htype hcode hk
      hlevel hl hplan =>
    obtain ⟨t, ht, _⟩ := checkPlan_ok hplan
    have hcheck : ∀ (q : Position) (only : Bool), Compiles ⟨c, config⟩ []
        (.check q e code level imbalance only)
        (.dataset (.check condition other ⟨k, l, if only then .invalid else .all⟩ t)) := by
      intro q only
      refine .check he hmeasure hsome hother htype hcode hk hlevel hl ?_
      rw [checkPlan, ht]
      rfl
    have hfilter := Compiles.filter (p := v) (hcheck x false) (compiles_resultFalse ht y z w) rfl
    refine ⟨⟨_, compile_ok_iff.2 (hcheck u true)⟩, fun c' today => ?_⟩
    refine resolve_eq (compile_ok_iff.2 (hcheck u true)) (compile_ok_iff.2 hfilter) ?_
    rw [Plan.eval, Plan.eval, Plan.eval, bind_assoc]
    refine Paired.eq (.bind_same _ fun d => ?_)
    rw [bind_assoc]
    refine .bind_same _ fun o => ?_
    rw [if_pos rfl, Check.evaluate_invalid]
    exact .refl (fun _ => rfl) _

def verdicts : Dataset where
  schema := ⟨[.identifier "k" .integer, .measure "holds" .boolean], by decide, by decide⟩
  rows := [[.integer 1, .boolean true], [.integer 2, .boolean false], [.integer 3, .null],
    [.integer 4, .boolean false]]

def judging : Context :=
  ⟨[("C", .dataset verdicts),
    ("I", .dataset ⟨tally.schema, [[.integer 2, .integer 7], [.integer 3, .integer 8]]⟩)]⟩

def judgingCheck (invalid : Bool) : Expr :=
  .check {} (.name {} "C") (some (.literal {} (.string "low"))) none (some (.name {} "I")) invalid

set_option maxRecDepth 4000 in
theorem resolve_check_invalid_judging :
    (∃ d, resolve {} judging judging .epoch (judgingCheck true) = .ok (.dataset d) ∧
      d.rows = [[.integer 2, .boolean false, .integer 7, .string "low", .null],
        [.integer 4, .boolean false, .null, .string "low", .null]]) ∧
    ∀ today, resolve {} judging judging today (judgingCheck true) =
      resolve {} judging judging today (.filter {} (judgingCheck false) (resultFalse {} {} {})) := by
  have hcompile : ∃ a, compile ⟨judging, {}⟩ (judgingCheck true) = .ok a := ⟨_, rfl⟩
  obtain ⟨a, ha⟩ := hcompile
  exact ⟨⟨_, rfl, rfl⟩, (resolve_check_invalid ha {} {} {} {} {} {}).2 judging⟩

end Compile
end Tabular
