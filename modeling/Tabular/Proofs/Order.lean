import Mathlib.Data.List.Rotate
import Tabular.Proofs.Order.Checks
import Tabular.Proofs.Order.Hierarchy
import Tabular.Proofs.Rebinding
import Tabular.Proofs.Safety

set_option autoImplicit false

namespace Tabular

mutual

def Expr.analytic : Expr → Bool
  | .literal _ _ => false
  | .name _ _ => false
  | .unary _ _ e => e.analytic
  | .binary _ _ l r => l.analytic || r.analytic
  | .conditional _ t y n => t.analytic || y.analytic || n.analytic
  | .cast _ e _ => e.analytic
  | .call _ _ args => anyAnalytic args
  | .member _ e _ _ => e.analytic
  | .select _ e _ => e.analytic
  | .filter _ e c => e.analytic || c.analytic
  | .keep _ e _ => e.analytic
  | .drop _ e _ => e.analytic
  | .rename _ e _ => e.analytic
  | .calculate _ e items => e.analytic || anyAnalyticItem items
  | .combine _ _ es => anyAnalytic es
  | .window _ _ _ _ => true
  | .checkDatapoint _ e _ _ _ => e.analytic
  | .check _ e code level imbalance _ =>
    e.analytic || optionAnalytic imbalance || optionAnalytic code || optionAnalytic level
  | .checkHierarchy _ e _ _ _ _ _ => e.analytic

def anyAnalytic : List Expr → Bool
  | [] => false
  | e :: rest => e.analytic || anyAnalytic rest

def optionAnalytic : Option Expr → Bool
  | none => false
  | some e => e.analytic

def anyAnalyticItem : List CalcItem → Bool
  | [] => false
  | .mk _ _ e :: rest => e.analytic || anyAnalyticItem rest

end

theorem not_analytic_of_mem {es : List Expr} (h : anyAnalytic es = false) :
    ∀ e ∈ es, e.analytic = false := by
  induction es with
  | nil => exact fun _ he => absurd he List.not_mem_nil
  | cons e rest ih =>
    rw [anyAnalytic, Bool.or_eq_false_iff] at h
    exact List.forall_mem_cons.2 ⟨h.1, ih h.2⟩

inductive Binding.Rearranged : Binding → Binding → Prop
  | refl (b : Binding) : Rearranged b b
  | dataset {d e : Dataset} (h : d.Rearranged e) : Rearranged (.dataset d) (.dataset e)

namespace Context

/-- The contexts differ in the order of rows only. -/
def Rearranged (c c' : Context) : Prop :=
  ∀ n, Option.Rel Binding.Rearranged (c.get? n) (c'.get? n)

namespace Rearranged

variable {c c' : Context} {n : String}

theorem sameOutline (h : c.Rearranged c') (n : String) : c.SameOutline c' n := by
  have hn := h n
  unfold SameOutline
  generalize c.get? n = x, c'.get? n = y at hn ⊢
  cases hn with
  | none => rfl
  | some hb =>
    cases hb with
    | refl b => rfl
    | dataset h => simp [Binding.outline, h.schema]

theorem scope (h : c.Rearranged c') (today : Date) : c.scope today = c'.scope today := by
  unfold Context.scope
  refine congrArg (Scope.mk · today) (funext fun n => ?_)
  have hn := h n
  unfold scalar?
  generalize c.get? n = x, c'.get? n = y at hn ⊢
  cases hn with
  | none => rfl
  | some hb =>
    cases hb with
    | refl b => rfl
    | dataset h => rfl

theorem dataset (h : c.Rearranged c') {d : Dataset} (hd : c.get? n = some (.dataset d)) :
    ∃ e, c'.get? n = some (.dataset e) ∧ d.Rearranged e := by
  have hn := h n
  rw [hd] at hn
  generalize c'.get? n = y at hn ⊢
  cases hn with
  | some hb =>
    cases hb with
    | refl _ => exact ⟨d, rfl, .refl d⟩
    | dataset he => exact ⟨_, rfl, he⟩

end Rearranged

theorem rearranged_of_entries {c c' : Context}
    (h : List.Forall₂ (fun p q => p.1 = q.1 ∧ p.2.Rearranged q.2) c.entries c'.entries) :
    c.Rearranged c' := by
  intro n
  unfold get?
  generalize c.entries = entries, c'.entries = entries' at h
  induction h with
  | nil => exact .none
  | cons hp _ ih =>
    obtain ⟨hn, hb⟩ := hp
    rw [List.find?_cons, List.find?_cons, hn]
    split
    · exact .some hb
    · exact ih

end Context

/-- Of the structure, with distinct keys that are legible. -/
structure Dataset.Proper (d : Dataset) (s : Schema) : Prop where
  schema : d.schema = s
  distinct : d.Distinct
  legible : d.Legible

/-- The plan has no value in either context, or its values differ in the order of rows only. -/
def Plan.Stable (c c' : Context) (today : Date) (p : Plan) : Prop :=
  Matched (fun d e => d.Proper p.schema ∧ d.Rearranged e) (p.eval c today) (p.eval c' today)

/-- What is shown of a compiled expression by induction; the structure and the distinct keys are
    known already. -/
def Compiled.Stable (c c' : Context) (today : Date) : Compiled → Prop
  | .scalar _ => True
  | .dataset p =>
    Matched (fun d e => d.Legible ∧ d.Rearranged e) (p.eval c today) (p.eval c' today)

namespace Plan

variable {c c' : Context} {today : Date}

theorem Stable.of_ok {p : Plan} (h : p.Stable c c' today) {d : Dataset}
    (hd : p.eval c today = .ok d) : d.Proper p.schema := by
  unfold Stable at h
  rw [hd] at h
  generalize p.eval c' today = y at h
  cases h with
  | ok h => exact h.1

theorem Stable.bind {p : Plan} (h : p.Stable c c' today) {f g : Dataset → Except EvalError Dataset}
    (hf : ∀ d e, d.Proper p.schema → d.Rearranged e → Matched Dataset.Rearranged (f d) (g e))
    (hl : ∀ d r, d.Proper p.schema → f d = .ok r → r.Legible) :
    Matched (fun d e => d.Legible ∧ d.Rearranged e) (p.eval c today >>= f)
      (p.eval c' today >>= g) := by
  refine Matched.bind h fun d e _ _ hde => ?_
  exact (hf d e hde.1 hde.2).imp fun r _ hr _ hp => ⟨hl d r hde.1 hr, hp⟩

theorem evalAll_stable {ps : List Plan} (h : ∀ p ∈ ps, p.Stable c c' today) :
    Matched (fun ds es => List.Forall₂ (fun p (d : Dataset) => d.Proper p.schema) ps ds ∧
      List.Forall₂ Dataset.Rearranged ds es) (Plan.evalAll c today ps)
      (Plan.evalAll c' today ps) := by
  induction ps with
  | nil => exact .ok ⟨.nil, .nil⟩
  | cons p ps ih =>
    obtain ⟨hp, hps⟩ := List.forall_mem_cons.1 h
    rw [evalAll, evalAll]
    refine Matched.bind hp fun d e _ _ hde => (ih hps).bind fun ds es _ _ hdes => ?_
    exact .ok ⟨.cons hde.1 hdes.1, .cons hde.2 hdes.2⟩

theorem evalOption_stable {p : Option Plan} (h : ∀ q, p = some q → q.Stable c c' today) :
    Matched (fun d e => Option.Rel Dataset.Rearranged d e ∧
      ∀ o, d = some o → ∃ q, p = some q ∧ o.Proper q.schema) (Plan.evalOption c today p)
      (Plan.evalOption c' today p) := by
  cases p with
  | none => exact .ok ⟨.none, nofun⟩
  | some q =>
    rw [evalOption, evalOption]
    refine Matched.bind (h q rfl) fun d e _ _ hde => .ok ⟨.some hde.2, fun o ho => ?_⟩
    cases ho
    exact ⟨q, rfl, hde.1⟩

end Plan

theorem Compiled.evalAll_stable {c c' : Context} {today : Date} (hr : c.Rearranged c')
    {operands : List Compiled}
    (h : ∀ p, Compiled.dataset p ∈ operands → p.Stable c c' today) :
    Matched (fun vs ws => List.Forall₂ Operand.Rearranged vs ws ∧ ∀ d, Operand.dataset d ∈ vs →
      ∃ p, Compiled.dataset p ∈ operands ∧ d.Proper p.schema)
      (Compiled.evalAll c today operands) (Compiled.evalAll c' today operands) := by
  induction operands with
  | nil => exact .ok ⟨.nil, fun d hd => absurd hd List.not_mem_nil⟩
  | cons a operands ih =>
    have hrest := ih fun p hp => h p (List.mem_cons_of_mem _ hp)
    rw [evalAll, evalAll]
    cases a with
    | scalar e =>
      rw [Compiled.eval, Compiled.eval, hr.scope]
      cases e.eval (c'.scope today) with
      | error err => exact .error _ _
      | ok v =>
        refine hrest.bind fun vs ws _ _ hvw => .ok ⟨.cons (.scalar v) hvw.1, fun d hd => ?_⟩
        rcases List.mem_cons.1 hd with heq | hd
        · cases heq
        · obtain ⟨p, hp, hproper⟩ := hvw.2 d hd
          exact ⟨p, List.mem_cons_of_mem _ hp, hproper⟩
    | dataset p =>
      rw [Compiled.eval, Compiled.eval]
      have hp := h p (List.mem_cons_self ..)
      unfold Plan.Stable at hp
      generalize p.eval c today = x, p.eval c' today = y at hp ⊢
      cases hp with
      | error err err' => exact .error _ _
      | ok hde =>
        refine hrest.bind fun vs ws _ _ hvw => .ok ⟨.cons (.dataset hde.2) hvw.1, fun o ho => ?_⟩
        rcases List.mem_cons.1 ho with heq | ho
        · cases heq
          exact ⟨p, List.mem_cons_self .., hde.1⟩
        · obtain ⟨q, hq, ho⟩ := hvw.2 o ho
          exact ⟨q, List.mem_cons_of_mem _ hq, ho⟩

namespace Compile

open HierarchyCheck (ledger ledgerCheck)

variable {env : Env} {c' : Context} {today : Date} {f : Frame}

/-- What the expression becomes has no number among its identifiers. -/
def KeysExact (env : Env) : Frame × Expr → Prop
  | (f, e) => ∀ p, Compiles env f e (.dataset p) → p.schema.Discrete

/-- The imbalance of a check has no identifiers but those of the condition. -/
def ImbalanceKeyed (env : Env) : Frame × Expr → Prop
  | (f, .check _ e _ _ imbalance _) => ∀ i, imbalance = some i → ∀ condition other,
      Compiles env f e (.dataset condition) → Compiles env f i (.dataset other) →
      other.schema.identifierNames ⊆ condition.schema.identifierNames
  | _ => True

theorem keysExact_of_compile {e : Expr} {a : Compiled} (h : compile env e = .ok a)
    (hk : ∀ p, a = .dataset p → p.schema.Discrete) : KeysExact env ([], e) := by
  intro p hp
  have hc := compile_ok_iff.2 hp
  rw [h] at hc
  exact hk p (Except.ok.inj hc)

theorem Compiles.stable_plan {e : Expr} {p : Plan} (h : Compiles env f e (.dataset p))
    (hw : env.context.WellFormed) (hs : (Compiled.dataset p).Stable env.context c' today) :
    p.Stable env.context c' today :=
  hs.imp fun d _ hd _ hde =>
    ⟨⟨h.agrees today d hd, h.distinct hw.distinct hw.idsDistinct today d hd, hde.1⟩, hde.2⟩

theorem stable_fold (e : Scalar) : (env.fold (.scalar e)).Stable env.context c' today := trivial

theorem stable_name (hw : env.context.WellFormed) (hr : env.context.Rearranged c') {n : String}
    {a : Compiled} (h : env.name f n = .ok a) (hk : ∀ p, a = .dataset p → p.schema.Discrete) :
    a.Stable env.context c' today := by
  rcases name_ok h with ⟨_, _, _, rfl⟩ | ⟨_, _, _, rfl⟩ | ⟨d, hd, rfl⟩
  · trivial
  · trivial
  · obtain ⟨e, he, hde⟩ := hr.dataset hd
    have hconforms : d.Conforms := (hw n _ hd).1
    change Matched _ (Plan.eval _ _ _) (Plan.eval _ _ _)
    rw [Plan.eval_named hd, Plan.eval_named he]
    exact .ok ⟨hconforms.legible (hk _ rfl), hde⟩

theorem stable_lift (hr : env.context.Rearranged c') {build : Builder} {operands : List Compiled}
    {a : Compiled} (hs : ∀ p, Compiled.dataset p ∈ operands → p.Stable env.context c' today)
    (h : env.lift build operands = .ok a) : a.Stable env.context c' today := by
  rcases lift_ok h with ⟨_, op, _, rfl⟩ | ⟨first, rest, hp, h⟩
  · exact stable_fold _
  · obtain ⟨hids, outs, s, _, _, rfl⟩ := liftOver_ok h
    change Matched _ (Plan.eval _ _ _) (Plan.eval _ _ _)
    rw [Plan.eval, Plan.eval]
    refine (Compiled.evalAll_stable hr hs).bind fun vs ws hv _ hvw => ?_
    obtain ⟨hm, d, hd, hf⟩ := Compiled.evalAll_leading hv hp
    have hproper := (hs first hm).of_ok hd
    refine (MeasureMap.evaluate_perm today hvw.1 fun o ho => ?_).imp fun r _ hres _ hperm =>
      ⟨MeasureMap.legible_evaluate hf (by rw [hproper.schema]) hproper.legible hres, hperm⟩
    obtain ⟨p, hmem, ho⟩ := hvw.2 o ho
    have hplan : p ∈ first :: rest := hp ▸ mem_plans.2 hmem
    refine ⟨ho.distinct, ?_⟩
    rw [ho.schema]
    exact identifiers_of_shared hids p hplan

theorem stable_binary (hr : env.context.Rearranged c') {op : BinaryOp} {l r a : Compiled}
    (hs : ∀ p, Compiled.dataset p ∈ [l, r] → p.Stable env.context c' today)
    (h : env.binary op l r = .ok a) : a.Stable env.context c' today := by
  rcases binary_ok h with ⟨_, _, _, _, _, _, _, rfl⟩ | h
  · exact stable_fold _
  · exact stable_lift hr hs h

theorem stable_project {source : Plan} {names : List String} {keep : Bool} {s : Schema}
    (hs : source.Stable env.context c' today) :
    (Compiled.dataset (.project source names keep s)).Stable env.context c' today := by
  change Matched _ (Plan.eval _ _ _) (Plan.eval _ _ _)
  rw [Plan.eval, Plan.eval]
  exact hs.bind (fun _ _ _ hde => Dataset.project_perm hde names keep)
    fun _ _ hd hr => Dataset.legible_project hd.legible hr

theorem Items.calls_eq_nil {source : Plan} {n : Nat} {items : List CalcItem}
    {bodies : List (Expr × Scalar)} {calculated : List Calculated}
    (h : Items source n items bodies calculated) (ha : anyAnalyticItem items = false) :
    calculated.filterMap (·.call) = [] := by
  induction h with
  | nil => rfl
  | window => simp [anyAnalyticItem, Expr.analytic] at ha
  | plain _ _ _ ih =>
    rw [anyAnalyticItem, Bool.or_eq_false_iff] at ha
    exact ih ha.2

theorem stable_calculate (hr : env.context.Rearranged c') {source plan : Plan}
    {calculated : List Calculated} (hs : source.Stable env.context c' today)
    (hn : calculated.filterMap (·.call) = []) (hk : plan.schema.Discrete)
    (h : calculatePlan source calculated = .ok plan) :
    (Compiled.dataset plan).Stable env.context c' today := by
  obtain ⟨_, _, s, hw, hc, hp, rfl⟩ := calculatePlan_ok h
  rw [hn] at hw hp ⊢
  change Matched _ (Plan.eval _ _ _) (Plan.eval _ _ _)
  rw [Plan.eval, Plan.eval, hr.scope]
  refine hs.bind (fun _ _ _ hde => Dataset.calculate_perm hde _ _) fun d r hd hres => ?_
  rw [← hd.schema] at hw
  have hschema : r.schema = s := Dataset.calculateOver_schema hres hw hc hp
  exact Dataset.legible_calculate hd.legible (hschema ▸ hk) hres

theorem stable_combine {op : SetOp} {plans : List Plan} {plan : Plan}
    (hs : ∀ p ∈ plans, p.Stable env.context c' today) (h : combinePlan op plans = .ok plan) :
    (Compiled.dataset plan).Stable env.context c' today := by
  obtain ⟨first, rest, rfl, hcompatible, rfl⟩ := combinePlan_ok h
  change Matched _ (Plan.eval _ _ _) (Plan.eval _ _ _)
  rw [Plan.eval, Plan.eval]
  refine (Plan.evalAll_stable hs).bind fun ds es _ _ hdes => ?_
  obtain ⟨hproper, hperm⟩ := hdes
  cases hproper with
  | @cons _ d _ ds hd hds =>
    have hall : ∀ o ∈ d :: ds, d.schema.identifiers ⊆ o.schema.identifiers ∧
        o.schema.identifierNames ⊆ d.schema.identifierNames ∧ o.Distinct ∧ o.Legible := by
      refine List.forall_mem_cons.2 ⟨⟨List.Subset.refl _, List.Subset.refl _, hd.distinct,
        hd.legible⟩, fun o ho => ?_⟩
      obtain ⟨p, hmem, ho⟩ := exists_left_of_mem hds ho
      have hp := hcompatible p hmem
      rw [hd.schema, ho.schema]
      exact ⟨Schema.identifiers_subset (SetOp.subset_of_compatible hp),
        SetOp.identifierNames_of_compatible hp, ho.distinct, ho.legible⟩
    refine (op.evaluate_perm hperm fun o ho => ?_).imp fun r _ hres _ hp => ⟨?_, hp⟩
    · obtain ⟨_, hnames, hdistinct, _⟩ := hall o ho
      exact ⟨hdistinct, hnames⟩
    · refine SetOp.legible_evaluate (fun o ho => ?_) hres
      obtain ⟨hids, _, _, hlegible⟩ := hall o ho
      exact ⟨hids, hlegible⟩

theorem stable_check (hr : env.context.Rearranged c') {condition : Plan} {other : Option Plan}
    {check : Check} {s : Schema} (hs : condition.Stable env.context c' today)
    (ho : ∀ q, other = some q → q.Stable env.context c' today ∧
      q.schema.identifierNames ⊆ condition.schema.identifierNames) :
    (Compiled.dataset (.check condition other check s)).Stable env.context c' today := by
  change Matched _ (Plan.eval _ _ _) (Plan.eval _ _ _)
  rw [Plan.eval, Plan.eval, hr.scope]
  refine Matched.bind hs fun d e _ _ hde => ?_
  refine (Plan.evalOption_stable fun q hq => (ho q hq).1).bind fun o o' _ _ hoo => ?_
  refine (check.evaluate_perm _ hde.2 hoo.1 fun v hv => ?_).imp fun r _ hres _ hp =>
    ⟨Check.legible_evaluate hde.1.legible hres, hp⟩
  obtain ⟨q, hq, hv⟩ := hoo.2 v hv
  refine ⟨hv.distinct, ?_⟩
  rw [hv.schema, hde.1.schema]
  exact (ho q hq).2

/-- One case for each node. Keys of different datasets are compared by `Key.same` throughout; only
    a hierarchy check shows a key of one row for others, and it needs them to be legible. -/
theorem Compiles.stable {e : Expr} {a : Compiled} (h : Compiles env f e a)
    (hw : env.context.WellFormed) (hr : env.context.Rearranged c') (he : e.analytic = false)
    (hp : Everywhere env (fun y => KeysExact env y ∧ ImbalanceKeyed env y) (f, e)) (today : Date) :
    a.Stable env.context c' today := by
  induction h with
  | literal => trivial
  | name h =>
    refine stable_name hw hr h fun p hpl => hp.self.1 p ?_
    subst hpl
    exact .name h
  | unary ha h ih =>
    refine stable_lift hr (fun p hm => ?_) h
    cases List.mem_singleton.1 hm
    exact ha.stable_plan hw (ih he (hp.part (.first rfl)))
  | binary hl hrt h ihl ihr =>
    rw [Expr.analytic, Bool.or_eq_false_iff] at he
    refine stable_binary hr (fun p hm => ?_) h
    rcases List.mem_cons.1 hm with heq | hm
    · subst heq
      exact hl.stable_plan hw (ihl he.1 (hp.part (.first rfl)))
    · cases List.mem_singleton.1 hm
      exact hrt.stable_plan hw (ihr he.2 (hp.part (.right hl)))
  | conditional _ _ _ h =>
    obtain ⟨_, _, _, rfl⟩ := conditional_ok h
    exact stable_fold _
  | cast ha h ih =>
    refine stable_lift hr (fun p hm => ?_) h
    cases List.mem_singleton.1 hm
    exact ha.stable_plan hw (ih he (hp.part (.first rfl)))
  | call hlen hargs h ih =>
    refine stable_lift hr (fun p hm => ?_) h
    obtain ⟨i, hz⟩ := exists_mem_zip hlen hm
    have hi := not_analytic_of_mem he i (List.of_mem_zip hz).1
    exact (hargs i _ hz).stable_plan hw
      (ih i _ hz hi (hp.part (.argument (reached_of_zip hlen hargs hz))))
  | member ha h ih =>
    refine stable_lift hr (fun p hm => ?_) h
    cases List.mem_singleton.1 hm
    exact ha.stable_plan hw (ih he (hp.part (.first rfl)))
  | select ha h ih =>
    obtain ⟨s, _, rfl⟩ := selectPlan_ok h
    exact stable_project (ha.stable_plan hw (ih he (hp.part (.first rfl))))
  | filter ha _ _ ih =>
    rw [Expr.analytic, Bool.or_eq_false_iff] at he
    have hs := ha.stable_plan hw (ih he.1 (hp.part (.first rfl)))
    change Matched _ (Plan.eval _ _ _) (Plan.eval _ _ _)
    rw [Plan.eval, Plan.eval, hr.scope]
    exact hs.bind (fun _ _ _ hde => Dataset.filter_perm hde _ _)
      fun _ _ hd hres => Dataset.legible_filter hd.legible hres
  | keep ha h ih =>
    obtain ⟨s, _, rfl⟩ := projectPlan_ok h
    exact stable_project (ha.stable_plan hw (ih he (hp.part (.first rfl))))
  | drop ha h ih =>
    obtain ⟨s, _, rfl⟩ := projectPlan_ok h
    exact stable_project (ha.stable_plan hw (ih he (hp.part (.first rfl))))
  | rename ha h ih =>
    obtain ⟨s, _, rfl⟩ := renamePlan_ok h
    have hs := ha.stable_plan hw (ih he (hp.part (.first rfl)))
    change Matched _ (Plan.eval _ _ _) (Plan.eval _ _ _)
    rw [Plan.eval, Plan.eval]
    exact hs.bind (fun _ _ _ hde => Dataset.rename_perm hde _)
      fun _ _ hd hres => Dataset.legible_rename hd.legible hres
  | calculate ha hitems hbodies h ih =>
    rw [Expr.analytic, Bool.or_eq_false_iff] at he
    have hs := ha.stable_plan hw (ih he.1 (hp.part (.first rfl)))
    exact stable_calculate hr hs (hitems.calls_eq_nil he.2)
      (hp.self.1 _ (.calculate ha hitems hbodies h)) h
  | combine hcount hlen hes h ih =>
    refine stable_combine (fun p hm => ?_) h
    obtain ⟨i, hz⟩ := exists_mem_zip hlen hm
    have hi := not_analytic_of_mem he i (List.of_mem_zip hz).1
    exact (hes i p hz).stable_plan hw
      (ih i p hz hi (hp.part (.operand hcount (reached_of_zip hlen hes hz))))
  | window => cases he
  | checkDatapoint ha _ _ _ _ h ih =>
    obtain ⟨s, _, rfl⟩ := checkDatapointPlan_ok h
    have hs := ha.stable_plan hw (ih he (hp.part (.first rfl)))
    change Matched _ (Plan.eval _ _ _) (Plan.eval _ _ _)
    rw [Plan.eval, Plan.eval, hr.scope]
    exact hs.bind (fun _ _ _ hde => DatapointCheck.evaluate_perm _ _ hde)
      fun _ _ hd hres => DatapointCheck.legible_evaluate hd.legible hres
  | check ha hmeasure hsome hother _ _ _ _ _ h ih iho =>
    obtain ⟨s, _, rfl⟩ := checkPlan_ok h
    simp only [Expr.analytic, Bool.or_eq_false_iff] at he
    refine stable_check hr (ha.stable_plan hw (ih he.1.1.1 (hp.part (.first rfl)))) ?_
    rintro q rfl
    obtain ⟨i, rfl⟩ := Option.isSome_iff_exists.1 (hsome.trans rfl)
    have hi := hother i q rfl rfl
    refine ⟨hi.stable_plan hw (iho i q rfl rfl he.1.1.2 (hp.part (.imbalance ha hmeasure))), ?_⟩
    exact hp.self.2 i rfl _ _ ha hi
  | checkHierarchy ha _ h ih =>
    obtain ⟨_, _, s, _, _, _, rfl⟩ := checkHierarchyPlan_ok h
    have hs := ha.stable_plan hw (ih he (hp.part (.first rfl)))
    have hk := (hp.part (.first rfl)).self.1 _ ha
    change Matched _ (Plan.eval _ _ _) (Plan.eval _ _ _)
    rw [Plan.eval, Plan.eval]
    refine hs.bind (fun d _ hd hde => ?_) fun d _ hd hres => ?_
    · exact HierarchyCheck.evaluate_perm hde hd.distinct (hd.schema ▸ hk) hd.legible
    · exact HierarchyCheck.legible_evaluate hd.legible (hd.schema ▸ hk) hres

/-- In a well-formed context and one that differs in the order of rows only, an expression without
    window functions fails in both, or it has the same result but for the order of rows. -/
theorem resolve_rearranged {c c' : Context} {config : Config} {e : Expr} (hw : c.WellFormed)
    (hr : c.Rearranged c') (he : e.analytic = false)
    (hk : Everywhere ⟨c, config⟩ (KeysExact ⟨c, config⟩) ([], e))
    (hi : Everywhere ⟨c, config⟩ (ImbalanceKeyed ⟨c, config⟩) ([], e)) (today : Date) :
    Matched Binding.Rearranged (resolve config c c today e) (resolve config c' c' today e) := by
  have hsame : compile ⟨c, config⟩ e = compile ⟨c', config⟩ e :=
    compile_congr fun m _ => hr.sameOutline m.name
  unfold resolve
  rw [← hsame]
  cases hc : compile ⟨c, config⟩ e with
  | error err => exact .error _ _
  | ok a =>
    have hs := (compile_compiles hc).stable hw hr he (hk.and hi) today
    cases a with
    | scalar s =>
      dsimp only [Session.bindingOf]
      rw [hr.scope]
      cases s.eval (c'.scope today) with
      | error err => exact .error _ _
      | ok v => exact .ok (.refl _)
    | dataset p =>
      change Matched _ (p.eval c today) (p.eval c' today) at hs
      dsimp only [Session.bindingOf]
      generalize p.eval c today = x, p.eval c' today = y at hs ⊢
      cases hs with
      | error err err' => exact .error _ _
      | ok hde => exact .ok (.dataset hde.2)

def draft : Dataset where
  schema := ledger.schema
  rows := [[.integer 2, .string "A", .integer 9], [.integer 2, .string "T", .integer 1]]

def books : Context :=
  ⟨[("L", .dataset ledger), ("K", .dataset draft),
    ("sums", .hierarchicalRuleset ⟨"sums", .components, some "code", ledgerCheck.rules⟩)]⟩

def booksRotated : Context :=
  ⟨[("L", .dataset ⟨ledger.schema, ledger.rows.rotate 2⟩),
    ("K", .dataset ⟨draft.schema, draft.rows.rotate 1⟩),
    ("sums", .hierarchicalRuleset ⟨"sums", .components, some "code", ledgerCheck.rules⟩)]⟩

def booksCheck : Expr :=
  .checkHierarchy {} (.combine {} .union [.name {} "L", .name {} "K"]) "sums" none .alwaysZero
    .dataset .allMeasures

theorem wellFormed_books : books.WellFormed := by
  refine wellFormed_of_entries fun p hp => ?_
  simp only [books, List.mem_cons, List.not_mem_nil, or_false] at hp
  rcases hp with rfl | rfl | rfl
  · refine ⟨?_, ?_⟩
    · unfold Dataset.Conforms Schema.Admits Conform
      decide
    · unfold Dataset.Distinct
      decide
  · refine ⟨?_, ?_⟩
    · unfold Dataset.Conforms Schema.Admits Conform
      decide
    · unfold Dataset.Distinct
      decide
  · unfold Binding.WellFormed
    decide

theorem rearranged_books : books.Rearranged booksRotated := by
  refine Context.rearranged_of_entries (.cons ⟨rfl, ?_⟩ (.cons ⟨rfl, ?_⟩ (.cons ⟨rfl, ?_⟩ .nil)))
  · exact .dataset ⟨rfl, (List.rotate_perm ledger.rows 2).symm⟩
  · exact .dataset ⟨rfl, (List.rotate_perm draft.rows 1).symm⟩
  · exact .refl _

theorem everywhere_books {P : Frame × Expr → Prop} (hx : P ([], booksCheck))
    (hu : P ([], .combine {} .union [.name {} "L", .name {} "K"]))
    (hl : P ([], .name {} "L")) (hk : P ([], .name {} "K")) :
    Everywhere ⟨books, {}⟩ P ([], booksCheck) := by
  refine .of_parts hx fun y hy => ?_
  cases hy with
  | first h =>
    cases h
    refine .of_parts hu fun y hy => ?_
    cases hy with
    | first h => cases h
    | operand _ h =>
      cases h with
      | here h =>
        cases h
        exact .name hl
      | later _ h =>
        cases h with
        | here h =>
          cases h
          exact .name hk
        | later _ h => cases h

set_option maxRecDepth 4000 in
theorem resolve_rearranged_books :
    (∃ d, resolve {} books books .epoch booksCheck = .ok (.dataset d) ∧
      d.rows = [[.integer 1, .string "r1", .integer 5, .boolean true, .integer 0, .null, .null],
        [.integer 2, .string "r1", .integer 1, .boolean true, .integer 0, .null, .null]]) ∧
    (∃ d, resolve {} booksRotated booksRotated .epoch booksCheck = .ok (.dataset d) ∧
      d.rows = [[.integer 2, .string "r1", .integer 1, .boolean true, .integer 0, .null, .null],
        [.integer 1, .string "r1", .integer 5, .boolean true, .integer 0, .null, .null]]) ∧
    ∀ today, Matched Binding.Rearranged (resolve {} books books today booksCheck)
      (resolve {} booksRotated booksRotated today booksCheck) := by
  refine ⟨⟨_, rfl, rfl⟩, ⟨_, rfl, rfl⟩, ?_⟩
  have hk : Everywhere ⟨books, {}⟩ (KeysExact ⟨books, {}⟩) ([], booksCheck) := by
    refine everywhere_books ?_ ?_ ?_ ?_
    all_goals
      refine keysExact_of_compile rfl fun p hp => ?_
      cases hp
      unfold Schema.Discrete
      decide
  have hi : Everywhere ⟨books, {}⟩ (ImbalanceKeyed ⟨books, {}⟩) ([], booksCheck) :=
    everywhere_books trivial trivial trivial trivial
  exact resolve_rearranged wellFormed_books rearranged_books rfl hk hi

end Compile
end Tabular
