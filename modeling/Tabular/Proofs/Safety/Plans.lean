import Mathlib.Data.List.Nodup
import Tabular.Proofs.Safety.Lift
import Tabular.Proofs.Safety.Reports
import Tabular.Proofs.Safety.Transforms

set_option autoImplicit false

namespace Tabular

/-- The plan evaluates to a dataset as planned, unless the data prevent it. -/
def Plan.Delivers (c : Context) (today : Date) (p : Plan) : Prop :=
  Safe (fun d => d.schema = p.schema ∧ d.Distinct ∧ d.Conforms) (p.eval c today)

def WindowCall.resultType (c : WindowCall) (s : Schema) : Option ScalarType :=
  (s.get? c.source).map fun m => c.function.result m.type

namespace Schema

variable {s t : Schema}

theorem windowColumns_mem {calls : List WindowCall} {cols : List Column}
    (h : s.windowColumns calls = .ok cols) {call : WindowCall} (hc : call ∈ calls) :
    ∃ m, s.get? call.source = some m ∧
      (⟨call.target, .measure, call.function.result m.type⟩ : Column) ∈ cols := by
  induction calls generalizing cols with
  | nil => cases hc
  | cons c rest ih =>
    obtain ⟨m, hm, h⟩ := ok_of_bind h
    obtain ⟨more, hmore, h⟩ := ok_of_bind h
    cases eq_of_pure_ok h
    rcases List.mem_cons.1 hc with rfl | hc
    · have hm := liftModel_ok hm
      unfold require at hm
      split at hm
      · rename_i hg
        cases hm
        exact ⟨m, hg, List.mem_cons_self ..⟩
      · cases hm
    · obtain ⟨m', hm', hcol⟩ := ih hmore hc
      exact ⟨m', hm', List.mem_cons_of_mem _ hcol⟩

theorem windowed_declares {calls : List WindowCall} (h : s.windowed calls = .ok t)
    (hn : (calls.map (·.target)).Nodup) {call : WindowCall} (hc : call ∈ calls) {u : ScalarType}
    (hu : call.resultType s = some u) : t.Declares call.target u := by
  obtain ⟨cols, hw, hcalc⟩ := windowed_ok h
  obtain ⟨m, hm, hcol⟩ := windowColumns_mem hw hc
  rw [WindowCall.resultType, hm] at hu
  cases hu
  rw [← windowColumns_names hw] at hn
  exact ⟨_, assign_component (calculate_ok hcalc) (List.Subset.refl _) hn _ hcol, rfl, rfl⟩

theorem windowed_resultType {calls : List WindowCall} (h : s.windowed calls = .ok t)
    {call : WindowCall} (hc : call ∈ calls) : ∃ u, call.resultType s = some u := by
  obtain ⟨cols, hw, _⟩ := windowed_ok h
  obtain ⟨m, hm, _⟩ := windowColumns_mem hw hc
  exact ⟨_, by rw [WindowCall.resultType, hm]; rfl⟩

theorem windowed_keeps {calls : List WindowCall} (h : s.windowed calls = .ok t) {n : String}
    {u : ScalarType} (hd : s.Declares n u) (hn : n ∉ calls.map (·.target)) : t.Declares n u := by
  obtain ⟨cols, hw, hcalc⟩ := windowed_ok h
  obtain ⟨c, hc, rfl, rfl⟩ := hd
  rw [← windowColumns_names hw] at hn
  exact ⟨c, assign_mem (calculate_ok hcalc) hc hn, rfl, rfl⟩

end Schema

namespace Compile

variable {env : Env} {today : Date} {f : Frame} {source : Plan}

theorem safe_projectPlan {c : Context} {names : List String} {keep : Bool} {s : Schema}
    (hs : source.Delivers c today) (h : source.schema.project names keep = .ok s) :
    Safe Dataset.Conforms ((Plan.project source names keep s).eval c today) := by
  rw [Plan.eval]
  refine hs.bind fun d hd => ?_
  rw [← hd.1] at h
  exact Dataset.safe_project hd.2.2 h

theorem safe_renamePlan {c : Context} {pairs : List (String × String)} {s : Schema}
    (hs : source.Delivers c today) (h : source.schema.rename pairs = .ok s) :
    Safe Dataset.Conforms ((Plan.rename source pairs s).eval c today) := by
  rw [Plan.eval]
  refine hs.bind fun d hd => ?_
  rw [← hd.1] at h
  exact Dataset.safe_rename hd.2.2 h

theorem safe_filterPlan {c : Context} {condition : Scalar} (hs : source.Delivers c today)
    (hc : condition.Typed source.schema.Declares) :
    Safe Dataset.Conforms ((Plan.filter source condition).eval c today) := by
  rw [Plan.eval]
  refine hs.bind fun d hd => Dataset.safe_filter hd.2.2 ?_ _
  rw [hd.1]
  exact hc

theorem safe_combinePlan {c : Context} {op : SetOp} {operands : List Plan} {plan : Plan}
    (hs : ∀ p ∈ operands, p.Delivers c today) (h : combinePlan op operands = .ok plan) :
    Safe Dataset.Conforms (plan.eval c today) := by
  obtain ⟨first, rest, rfl, hcompat, rfl⟩ := combinePlan_ok h
  obtain ⟨hfirst, hrest⟩ := List.forall_mem_cons.1 hs
  have hall : Safe (fun ds => ∀ d ∈ ds, first.schema.compatible d.schema = true ∧ d.Conforms)
      (Plan.evalAll c today rest) := by
    clear h
    induction rest with
    | nil => exact fun _ hd => absurd hd List.not_mem_nil
    | cons p rest ih =>
      obtain ⟨hc1, hc2⟩ := List.forall_mem_cons.1 hcompat
      obtain ⟨hr1, hr2⟩ := List.forall_mem_cons.1 hrest
      have hs' : ∀ q ∈ first :: rest, q.Delivers c today :=
        List.forall_mem_cons.2 ⟨hfirst, hr2⟩
      rw [Plan.evalAll]
      refine hr1.bind fun d hd => (ih hs' hc2 hr2).bind fun ds hds => ?_
      refine List.forall_mem_cons.2 ⟨⟨?_, hd.2.2⟩, hds⟩
      rw [hd.1]
      exact hc1
  rw [Plan.eval, Plan.evalAll]
  refine Safe.bind (P := fun ds => ∃ d rest', ds = d :: rest' ∧ d.Conforms ∧
    ∀ e ∈ rest', d.schema.compatible e.schema = true ∧ e.Conforms) ?_ ?_
  · refine hfirst.bind fun d hd => hall.bind fun ds hds => ⟨d, ds, rfl, hd.2.2, ?_⟩
    rw [hd.1]
    exact hds
  · rintro _ ⟨d, rest', rfl, hd, hrest'⟩
    exact SetOp.safe_evaluate hd hrest'

theorem windowCall_applies {fn : WindowFunction} {component target : String} {extent : Extent}
    {call : WindowCall} (h : windowCall fn component target extent source = .ok call) :
    ∃ m, source.schema.get? component = some m ∧ Window.Applies source.schema call m := by
  obtain ⟨hi, ⟨m, hm, hn⟩, hnames, rfl⟩ := windowCall_ok h
  refine ⟨m, hm, hm, hi, hn, fun n hp => ?_, fun o ho => ?_⟩
  · exact Schema.contains_iff.1 (hnames n (List.mem_append_left _ hp))
  · refine Schema.contains_iff.1 (hnames o.component (List.mem_append_right _ ?_))
    exact List.mem_map.2 ⟨o, ho, rfl⟩

theorem windowCalls_apply {fn : WindowFunction} {extent : Extent} {cs : List Component}
    {calls : List WindowCall} (h : windowCalls fn extent source cs = .ok calls) :
    ∀ call ∈ calls, ∃ m, Window.Applies source.schema call m := by
  induction cs generalizing calls with
  | nil =>
    cases h
    exact fun _ hc => absurd hc List.not_mem_nil
  | cons c cs ih =>
    obtain ⟨call, hcall, h⟩ := ok_of_bind h
    obtain ⟨more, hmore, h⟩ := ok_of_bind h
    cases eq_of_pure_ok h
    obtain ⟨m, _, hm⟩ := windowCall_applies hcall
    exact List.forall_mem_cons.2 ⟨⟨m, hm⟩, ih hmore⟩

theorem safe_windowPlan {c : Context} {fn : WindowFunction} {extent : Extent} {plan : Plan}
    (hs : source.Delivers c today) (h : windowPlan fn extent source = .ok plan) :
    Safe Dataset.Conforms (plan.eval c today) := by
  obtain ⟨calls, staged, s, hcalls, hw, hp, rfl⟩ := windowPlan_ok h
  rw [Plan.eval]
  refine hs.bind fun d hd => ?_
  have happly := windowCalls_apply hcalls
  rw [← hd.1] at hw happly
  exact Dataset.safe_windowedOver hd.2.2 hw happly hp

theorem scratchName_injective : Function.Injective scratchName := by
  intro m n h
  have hdigits : (toString m).toList = (toString n).toList := by
    have hl := congrArg String.toList h
    simpa [scratchName] using hl
  have hvalue := congrArg (Nat.ofDigitChars 10 · 0) hdigits
  simpa using hvalue

theorem scratchName_ne {n : String} (h : n.toList.head? ≠ some '$') (k : Nat) :
    scratchName k ≠ n := by
  rintro rfl
  exact h (by simp [scratchName, toString])

section

variable {n : Nat} {items : List CalcItem} {bodies : List (Expr × Scalar)}
  {calculated : List Calculated}

theorem Items.targets (h : Items source n items bodies calculated) :
    ∃ k, (calculated.filterMap (·.call)).map (·.target) = (List.range' n k).map scratchName := by
  induction h with
  | nil => exact ⟨0, rfl⟩
  | window _ hitem _ ih =>
    obtain ⟨k, hk⟩ := ih
    obtain ⟨call, hcall, rfl⟩ := windowItem_ok hitem
    obtain ⟨_, _, _, rfl⟩ := windowCall_ok hcall
    refine ⟨k + 1, ?_⟩
    rw [List.range'_succ, List.map_cons, ← hk]
    rfl
  | plain _ _ _ ih => exact ih

theorem Items.targets_nodup (h : Items source n items bodies calculated) :
    ((calculated.filterMap (·.call)).map (·.target)).Nodup := by
  obtain ⟨k, hk⟩ := h.targets
  rw [hk]
  exact List.Nodup.map scratchName_injective List.nodup_range'

theorem Items.applies (h : Items source n items bodies calculated) :
    ∀ call ∈ calculated.filterMap (·.call), ∃ m, Window.Applies source.schema call m := by
  induction h with
  | nil => exact fun _ hc => absurd hc List.not_mem_nil
  | window _ hitem _ ih =>
    obtain ⟨call, hcall, rfl⟩ := windowItem_ok hitem
    obtain ⟨m, _, hm⟩ := windowCall_applies hcall
    exact List.forall_mem_cons.2 ⟨⟨m, hm⟩, ih⟩
  | plain _ _ _ ih => exact ih

theorem Items.typed (h : Items source n items bodies calculated)
    {reads : String → ScalarType → Prop}
    (hcalls : ∀ call ∈ calculated.filterMap (·.call), ∀ t,
      call.resultType source.schema = some t → reads call.target t)
    (hbodies : ∀ b ∈ bodies, b.2.Typed reads) :
    ∀ col ∈ calculated.map (·.column), col.expression.Typed reads := by
  induction h with
  | nil => exact fun _ hc => absurd hc List.not_mem_nil
  | window _ hitem _ ih =>
    obtain ⟨call, hcall, rfl⟩ := windowItem_ok hitem
    obtain ⟨_, ⟨m, hm, _⟩, _, rfl⟩ := windowCall_ok hcall
    obtain ⟨h1, h2⟩ := List.forall_mem_cons.1 hcalls
    refine List.forall_mem_cons.2 ⟨.read ?_, ih h2 hbodies⟩
    have hr := h1 _ (by rw [WindowCall.resultType, hm]; rfl)
    rw [hm]
    exact hr
  | plain _ _ _ ih =>
    obtain ⟨h1, h2⟩ := List.forall_mem_cons.1 hbodies
    exact List.forall_mem_cons.2 ⟨h1, ih hcalls h2⟩

/-- What the plain items read is not hidden: where a window function writes to a scratch column of
    that name, it writes the same type. -/
def Unhidden (source : Plan) (bodies : List (Expr × Scalar)) (calculated : List Calculated) :
    Prop :=
  ∀ b ∈ bodies, ∀ m t, b.2.Reads m t → ∀ call ∈ calculated.filterMap (·.call),
    call.target = m → call.resultType source.schema = some t

theorem Items.unhidden (h : Items source n items bodies calculated)
    (hfree : ∀ b ∈ bodies, ∀ m t, b.2.Reads m t → ∀ k, scratchName k ≠ m) :
    Unhidden source bodies calculated := by
  intro b hb m t hr call hc hm
  obtain ⟨k, hk⟩ := h.targets
  have hscratch := List.mem_map_of_mem (f := (·.target)) hc
  rw [hk, hm] at hscratch
  obtain ⟨i, _, hi⟩ := List.mem_map.1 hscratch
  exact absurd hi (hfree b hb m t hr i)

/-- Exactly then the plain items are typed by the structure they are evaluated in, which has the
    scratch columns. -/
theorem unhidden_iff {staged : Schema}
    (hw : source.schema.windowed (calculated.filterMap (·.call)) = .ok staged)
    (hn : ((calculated.filterMap (·.call)).map (·.target)).Nodup)
    (hbodies : ∀ b ∈ bodies, b.2.Typed source.schema.Declares) :
    Unhidden source bodies calculated ↔ ∀ b ∈ bodies, b.2.Typed staged.Declares := by
  constructor
  · intro hseen b hb
    refine (hbodies b hb).of_reads fun m t hr => ?_
    by_cases hm : m ∈ (calculated.filterMap (·.call)).map (·.target)
    · obtain ⟨call, hc, rfl⟩ := List.mem_map.1 hm
      exact Schema.windowed_declares hw hn hc (hseen b hb _ t hr call hc rfl)
    · exact Schema.windowed_keeps hw ((hbodies b hb).declared hr) hm
  · intro htyped b hb m t hr call hc hm
    obtain ⟨u, hu⟩ := Schema.windowed_resultType hw hc
    have hdeclared := Schema.windowed_declares hw hn hc hu
    rw [hm] at hdeclared
    rw [hu, ((htyped b hb).declared hr).unique hdeclared]

theorem safe_calculatePlan {c : Context} {plan : Plan} (hs : source.Delivers c today)
    (hitems : Items source n items bodies calculated)
    (hbodies : ∀ b ∈ bodies, b.2.Typed source.schema.Declares)
    (hseen : Unhidden source bodies calculated)
    (h : calculatePlan source calculated = .ok plan) :
    Safe Dataset.Conforms (plan.eval c today) := by
  obtain ⟨staged, assigned, s, hw, ha, hp, rfl⟩ := calculatePlan_ok h
  have hn := hitems.targets_nodup
  have hstaged := (unhidden_iff hw hn hbodies).1 hseen
  have htyped := hitems.typed (fun call hc t ht => Schema.windowed_declares hw hn hc ht) hstaged
  have happly := hitems.applies
  rw [Plan.eval]
  refine hs.bind fun d hd => ?_
  rw [← hd.1] at hw happly
  exact Dataset.safe_calculateOver hd.2.2 hd.2.1 hw happly ha htyped hp _

end

theorem variableComponent?_mem {domain : RulesetDomain} {s : Schema} {v : RuleVariable}
    {given : Option String} {c : Component} (h : variableComponent? domain s v given = some c) :
    c ∈ s.components := by
  unfold variableComponent? at h
  split at h
  · exact (Schema.get?_eq_some.1 h).1
  · exact (Schema.get?_eq_some.1 h).1
  · exact List.mem_of_find?_eq_some h

theorem bindVariables_declares {domain : RulesetDomain} {vars : List RuleVariable}
    {given : List String} {start inner : Frame}
    (h : bindVariables domain source start vars given = .ok inner)
    (hs : ∀ e ∈ start, source.schema.Declares e.2.1 e.2.2) :
    ∀ e ∈ inner, source.schema.Declares e.2.1 e.2.2 := by
  induction vars generalizing start given with
  | nil =>
    cases h
    exact hs
  | cons v vars ih =>
    obtain ⟨entry, he, h⟩ := ok_of_bind h
    refine ih h (List.forall_mem_cons.2 ⟨?_, fun e hm => hs e (List.mem_of_mem_filter hm)⟩)
    unfold bindVariable at he
    split at he
    · cases he
    · rename_i c hc
      split at he
      · cases he
      · cases he
        exact ⟨c, variableComponent?_mem hc, rfl, rfl⟩

theorem rulesetFrame_declares {rs : DatapointRuleset} {components : List String} {inner : Frame}
    (h : rulesetFrame rs source components = .ok inner) {n : String} {t : ScalarType}
    (hp : inner.Provides n t) : source.schema.Declares n t := by
  unfold rulesetFrame at h
  split at h
  · cases h
  · obtain ⟨e, he, heq⟩ := Frame.mem_of_provides hp
    have hd := bindVariables_declares h (fun _ hm => absurd hm List.not_mem_nil) e he
    rw [heq] at hd
    exact hd

theorem Rules.typed {rs : List DatapointRule} {bodies : List (Expr × Scalar)}
    {rules : List RowRule} (h : Rules rs bodies rules) {reads : String → ScalarType → Prop}
    (hb : ∀ b ∈ bodies, b.2.Typed reads) : ∀ rule ∈ rules, rule.Typed reads := by
  induction h with
  | nil => exact fun _ hr => absurd hr List.not_mem_nil
  | always hs _ ih =>
    obtain ⟨h1, h2⟩ := List.forall_mem_cons.1 hb
    refine List.forall_mem_cons.2 ⟨⟨nofun, h1, Typing.expect_ok hs⟩, ih h2⟩
  | guarded ht hs _ ih =>
    obtain ⟨h1, h2⟩ := List.forall_mem_cons.1 hb
    obtain ⟨h2, h3⟩ := List.forall_mem_cons.1 h2
    refine List.forall_mem_cons.2 ⟨⟨fun a ha => ?_, h2, Typing.expect_ok hs⟩, ih h3⟩
    cases ha
    exact ⟨h1, Typing.expect_ok ht⟩

theorem safe_checkDatapointPlan {c : Context} {frame : Frame} {rules : List RowRule}
    {mode : OutputMode} {plan : Plan} (hs : source.Delivers c today)
    (hfree : ∀ m ∈ source.schema.measures, m.name ∉ DatapointCheck.reservedNames)
    (hrules : ∀ rule ∈ rules, rule.Typed source.schema.Declares)
    (h : checkDatapointPlan source frame rules mode = .ok plan) :
    Safe Dataset.Conforms (plan.eval c today) := by
  obtain ⟨s, hschema, rfl⟩ := checkDatapointPlan_ok h
  rw [Plan.eval]
  refine hs.bind fun d hd => ?_
  rw [← hd.1] at hfree hrules
  have hplanned : (⟨rules, declaredMeasures source.schema frame, mode⟩ : DatapointCheck).schema
      d.schema = .ok s := by rw [hd.1]; exact hschema
  exact DatapointCheck.safe_evaluate hd.2.2 hplanned hfree hrules _

theorem safe_imbalance {c : Context} {other : Option Plan} {type : Option ScalarType}
    (ho : ∀ p, other = some p → p.Delivers c today) (ht : imbalanceType other = .ok type) :
    Safe (fun value => Check.imbalanceType value = .ok type ∧ ∀ d, value = some d →
      d.Conforms ∧ ∃ p, other = some p ∧ d.schema = p.schema) (Plan.evalOption c today other) := by
  cases other with
  | none =>
    cases ht
    exact ⟨rfl, nofun⟩
  | some p =>
    obtain ⟨m, hm, ht⟩ := ok_of_bind ht
    cases eq_of_pure_ok ht
    obtain ⟨hsole, hnum⟩ := Check.soleMeasure_ok (evaluation_ok hm)
    rw [Plan.evalOption]
    refine (ho p rfl).bind fun d hd => ⟨?_, fun e he => ?_⟩
    · unfold Check.imbalanceType Check.numericMeasure
      dsimp only
      rw [Check.soleMeasure_of (by rw [hd.1]; exact hsole) hnum]
      rfl
    · cases he
      exact ⟨hd.2.2, p, rfl, hd.1⟩

theorem OptionalScalar.gives {type : ScalarType} {arg : Option Expr} {s : Scalar}
    (h : OptionalScalar type arg s) {reads : String → ScalarType → Prop}
    (ht : ∀ e, arg = some e → s.Typed reads) : s.Gives reads type := by
  cases arg with
  | none =>
    rw [h.1 rfl]
    exact ⟨.literal (Value.fits_null _), .inr rfl⟩
  | some e => exact ⟨ht e rfl, Typing.expect_ok (h.2 rfl)⟩

theorem safe_checkPlan {c : Context} {condition plan : Plan} {name : String} {measure : Component}
    {other : Option Plan} {type : Option ScalarType} {code level : Scalar} {invalid : Bool}
    (hs : condition.Delivers c today)
    (hm : Check.booleanMeasure condition.schema name = .ok measure)
    (ho : ∀ p, other = some p → p.Delivers c today ∧
      ∀ n ∈ condition.schema.identifierNames, n ∈ p.schema.names)
    (ht : imbalanceType other = .ok type)
    (hcode : code.Gives condition.schema.Declares .string)
    (hlevel : level.Gives condition.schema.Declares .integer)
    (h : checkPlan condition other type code level invalid = .ok plan) :
    Safe Dataset.Conforms (plan.eval c today) := by
  obtain ⟨s, hschema, rfl⟩ := checkPlan_ok h
  obtain ⟨hsole, hbool⟩ := Check.soleMeasure_ok hm
  rw [Plan.eval]
  refine hs.bind fun d hd => ?_
  refine (safe_imbalance (fun p hp => (ho p hp).1) ht).bind fun value hv => ?_
  rw [← hd.1] at hsole hschema hcode hlevel
  refine Check.safe_evaluate hd.2.2 hsole (eq_of_beq hbool) hcode hlevel hv.1 (fun e he => ?_)
    hschema _
  obtain ⟨hc, p, hp, hsp⟩ := hv.2 e he
  refine ⟨hc, fun n hn => ?_⟩
  rw [hsp]
  rw [hd.1] at hn
  exact (ho p hp).2 n hn

theorem safe_checkHierarchyPlan {c : Context} {config : Config} {rs : HierarchicalRuleset}
    {given : Option String} {validation : ValidationMode} {input : InputMode}
    {output : OutputMode} {plan : Plan} (hs : source.Delivers c today)
    (hcode : config.keepRuleComponent = true → ∀ component i,
      ruleComponent rs source.schema given = .ok component →
      source.schema.get? component = some i → i.type = .string)
    (h : checkHierarchyPlan config source rs given validation input output = .ok plan) :
    Safe Dataset.Conforms (plan.eval c today) := by
  obtain ⟨component, target, s, hcomp, htarget, hschema, rfl⟩ := checkHierarchyPlan_ok h
  obtain ⟨m, k, hsole, hnum, hget, _, rfl⟩ := HierarchyTarget.of_ok htarget
  obtain ⟨hk, hname⟩ := Schema.get?_eq_some.1 hget
  rw [Plan.eval]
  refine hs.bind fun d hd => ?_
  rw [← hd.1] at hschema
  refine HierarchyCheck.safe_evaluate hd.2.2 hschema hnum ?_ ?_ ?_
  · rw [hd.1]
    exact ⟨m, (Schema.soleMeasure?_ok hsole).2, rfl, rfl⟩
  · rw [hd.1]
    exact Schema.mem_names.2 ⟨k, hk, hname⟩
  · rw [hd.1]
    intro hkeep i hi hn
    refine hcode hkeep component i hcomp (Schema.get?_eq_some.2 ⟨?_, hn⟩)
    exact List.mem_of_mem_filter hi

end Compile
end Tabular
