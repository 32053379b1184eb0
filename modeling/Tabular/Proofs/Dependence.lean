import Tabular.Proofs.Locality
import Tabular.Proofs.Rebinding

set_option autoImplicit false

/-!
# Statements depend on the names they mention

Names are resolved twice: a scalar is put in by value when an expression is compiled, and a dataset
is looked up when the plan is evaluated. Neither step reaches for a name that the expression does
not mention. On a row every name that is read belongs to the structure of the row, so it does not
fall through to a scalar of the context.
-/
namespace Tabular

/-- The expression reads columns of the structure only. -/
def Scalar.Within (s : Schema) (e : Scalar) : Prop := ∀ n t, e.Reads n t → n ∈ s.names

theorem Scalar.Within.eval {s : Schema} {e : Scalar} (h : e.Within s) (r : Row)
    {outer outer' : Scope} (htoday : outer.today = outer'.today) :
    e.eval (Scope.ofRow s r outer) = e.eval (Scope.ofRow s r outer') := by
  refine e.eval_of_reads htoday fun n t hr => ?_
  obtain ⟨i, hi⟩ := Schema.exists_indexOf? (h n t hr)
  simp only [Scope.ofRow, hi]

section
variable {outer outer' : Scope} (htoday : outer.today = outer'.today) {s : Schema}
include htoday

theorem Dataset.filterRows_outer {condition : Scalar} (h : condition.Within s) (rows : List Row) :
    filterRows s condition outer rows = filterRows s condition outer' rows := by
  induction rows with
  | nil => rfl
  | cons r rest ih => simp only [filterRows, h.eval r htoday, ih]

theorem Dataset.filter_outer {d : Dataset} {condition : Scalar} (h : condition.Within d.schema) :
    d.filter condition outer = d.filter condition outer' := by
  simp only [filter, filterRows_outer htoday h]

section
variable {columns : List CalcColumn}

theorem Dataset.calculateRows_outer (h : ∀ c ∈ columns, c.expression.Within s) (slots : List Nat)
    (width : Nat) (rows : List Row) :
    calculateRows s columns slots width outer rows =
      calculateRows s columns slots width outer' rows := by
  have hall : ∀ (r : Row) (cs : List CalcColumn), (∀ c ∈ cs, c.expression.Within s) →
      Scalar.evalAll (Scope.ofRow s r outer) (cs.map (·.expression)) =
        Scalar.evalAll (Scope.ofRow s r outer') (cs.map (·.expression)) := by
    intro r cs hcs
    induction cs with
    | nil => rfl
    | cons c rest ih =>
      obtain ⟨hc, hrest⟩ := List.forall_mem_cons.1 hcs
      simp only [List.map_cons, Scalar.evalAll, hc.eval r htoday, ih hrest]
  induction rows with
  | nil => rfl
  | cons r rest ih => simp only [calculateRows, calculateRow, hall r columns h, ih]

theorem Dataset.calculate_outer {d : Dataset} (h : ∀ c ∈ columns, c.expression.Within d.schema) :
    d.calculate columns outer = d.calculate columns outer' := by
  simp only [calculate, calculateRows_outer htoday h]

theorem Dataset.calculateOver_outer {d : Dataset} {calls : List WindowCall}
    (h : ∀ c ∈ columns, ∀ n t, c.expression.Reads n t →
      n ∈ d.schema.names ∨ n ∈ calls.map (·.target)) :
    d.calculateOver calls columns outer = d.calculateOver calls columns outer' := by
  unfold calculateOver
  split
  · rename_i hn
    cases List.isEmpty_iff.1 hn
    refine calculate_outer htoday fun c hc n t hr => ?_
    exact (h c hc n t hr).resolve_right List.not_mem_nil
  · cases hw : d.windowed calls with
    | error e => rfl
    | ok staged =>
      obtain ⟨cols, hcols, hcalc⟩ := Schema.windowed_ok (windowed_schema hw)
      change staged.calculate columns outer >>= _ = staged.calculate columns outer' >>= _
      rw [calculate_outer htoday fun c hc n t hr => ?_]
      rcases h c hc n t hr with hn | hn
      · exact (Schema.calculate_names hcalc).subset hn
      · rw [← Schema.windowColumns_names hcols] at hn
        obtain ⟨col, hcol, rfl⟩ := List.mem_map.1 hn
        exact Schema.assign_contains (Schema.calculate_ok hcalc) (List.Subset.refl _) col hcol

end

theorem RowRule.evaluate_outer {rule : RowRule}
    (h : ∀ e, rule.antecedent = some e ∨ e = rule.consequent → e.Within s) (r : Row) :
    rule.evaluate (Scope.ofRow s r outer) = rule.evaluate (Scope.ofRow s r outer') := by
  have hc := (h _ (.inr rfl)).eval r htoday
  unfold RowRule.evaluate
  cases ha : rule.antecedent with
  | none => exact hc
  | some a => simp only [(h a (.inl ha)).eval r htoday, hc]

theorem DatapointCheck.evaluate_outer {c : DatapointCheck} {d : Dataset}
    (h : ∀ rule ∈ c.rules, ∀ e, rule.antecedent = some e ∨ e = rule.consequent →
      e.Within d.schema) : c.evaluate outer d = c.evaluate outer' d := by
  have hrules : ∀ (kept : List Nat) (r : Row) (rs : List RowRule), (∀ rule ∈ rs, rule ∈ c.rules) →
      c.reportRules d.schema kept (Scope.ofRow d.schema r outer) r rs =
        c.reportRules d.schema kept (Scope.ofRow d.schema r outer') r rs := by
    intro kept r rs hrs
    induction rs with
    | nil => rfl
    | cons rule rest ih =>
      obtain ⟨hrule, hrest⟩ := List.forall_mem_cons.1 hrs
      have hone := RowRule.evaluate_outer htoday (h rule hrule) r
      simp only [reportRules, reportRule, hone, ih hrest]
  have hrows : ∀ (kept : List Nat) (rows : List Row),
      c.reportRows d.schema kept outer rows = c.reportRows d.schema kept outer' rows := by
    intro kept rows
    induction rows with
    | nil => rfl
    | cons r rest ih => simp only [reportRows, hrules kept r c.rules fun _ h => h, ih]
  simp only [evaluate, hrows]

theorem Check.evaluate_outer {c : Check} {d : Dataset} {other : Option Dataset}
    (hcode : c.code.Within d.schema) (hlevel : c.level.Within d.schema) :
    c.evaluate outer d other = c.evaluate outer' d other := by
  have hrows : ∀ (column : Nat) (others : Keyed Value) (rows : List Row),
      c.reportRows d.schema column others outer rows =
        c.reportRows d.schema column others outer' rows := by
    intro column others rows
    induction rows with
    | nil => rfl
    | cons r rest ih =>
      simp only [reportRows, reportRow, errorCells, hcode.eval r htoday, hlevel.eval r htoday, ih]
  simp only [evaluate, Check.rows, hrows]

end

namespace Compile

theorem Local.within {s : Schema} {e : Scalar} (h : Local (Frame.ofSchema s) (.scalar e)) :
    e.Within s := by
  intro n t hr
  obtain ⟨m, hm, rfl, _⟩ := Frame.declares_of_ofSchema (h n t hr)
  exact Schema.mem_names.2 ⟨m, hm, rfl⟩

theorem Items.reads {source : Plan} {n : Nat} {items : List CalcItem}
    {bodies : List (Expr × Scalar)} {calculated : List Calculated}
    (h : Items source n items bodies calculated)
    (hb : ∀ b ∈ bodies, b.2.Within source.schema) :
    ∀ col ∈ calculated.map (·.column), ∀ m t, col.expression.Reads m t →
      m ∈ source.schema.names ∨ m ∈ (calculated.filterMap (·.call)).map (·.target) := by
  induction h with
  | nil => exact fun _ hc => absurd hc List.not_mem_nil
  | window _ hitem _ ih =>
    obtain ⟨call, hcall, rfl⟩ := windowItem_ok hitem
    obtain ⟨_, _, _, rfl⟩ := windowCall_ok hcall
    refine List.forall_mem_cons.2 ⟨?_, fun col hc m t hr => ?_⟩
    · rintro m t ⟨⟩
      exact .inr (List.mem_cons_self ..)
    · exact (ih hb col hc m t hr).imp id (List.mem_cons_of_mem _)
  | plain _ _ _ ih =>
    obtain ⟨h1, h2⟩ := List.forall_mem_cons.1 hb
    exact List.forall_mem_cons.2 ⟨fun m t hr => .inl (h1 m t hr), ih h2⟩

theorem Rules.within {rs : List DatapointRule} {bodies : List (Expr × Scalar)}
    {rules : List RowRule} (h : Rules rs bodies rules) {s : Schema}
    (hb : ∀ b ∈ bodies, b.2.Within s) :
    ∀ rule ∈ rules, ∀ e, rule.antecedent = some e ∨ e = rule.consequent → e.Within s := by
  induction h with
  | nil => exact fun _ hr => absurd hr List.not_mem_nil
  | always _ _ ih =>
    obtain ⟨h1, h2⟩ := List.forall_mem_cons.1 hb
    refine List.forall_mem_cons.2 ⟨?_, ih h2⟩
    rintro e (he | rfl)
    · cases he
    · exact h1
  | guarded _ _ _ ih =>
    obtain ⟨h1, h2⟩ := List.forall_mem_cons.1 hb
    obtain ⟨h2, h3⟩ := List.forall_mem_cons.1 h2
    refine List.forall_mem_cons.2 ⟨?_, ih h3⟩
    rintro e (he | rfl)
    · cases he
      exact h1
    · exact h2

variable {c c' : Context} {config : Config} {today : Date}

/-- The expression evaluates alike in both contexts. -/
def SameIn (c c' : Context) (today : Date) : Compiled → Prop
  | .scalar e => e.eval (c.scope today) = e.eval (c'.scope today)
  | .dataset p => p.eval c today = p.eval c' today

theorem SameIn.bindingOf {x : Compiled} (h : SameIn c c' today x) :
    Session.bindingOf c today x = Session.bindingOf c' today x := by
  cases x with
  | scalar s =>
    have heq : s.eval (c.scope today) = s.eval (c'.scope today) := h
    simp only [Session.bindingOf, heq]
  | dataset q =>
    have heq : q.eval c today = q.eval c' today := h
    simp only [Session.bindingOf, heq]

theorem resolve_congr {e e' : Expr} (heq : compile ⟨c', config⟩ e' = compile ⟨c, config⟩ e)
    (h : ∀ x, compile ⟨c, config⟩ e = .ok x → SameIn c c' today x) :
    resolve config c' c' today e' = resolve config c c today e := by
  unfold resolve
  rw [heq]
  cases hx : compile ⟨c, config⟩ e with
  | error err => rfl
  | ok x =>
    dsimp only
    rw [(h x hx).bindingOf]

theorem sameIn_scalar {e : Scalar} (h : Local [] (.scalar e)) : SameIn c c' today (.scalar e) :=
  e.eval_of_reads rfl fun n t hr => absurd (h n t hr) (Frame.not_provides_nil n t)

theorem evalAll_same {operands : List Compiled} (h : ∀ a ∈ operands, SameIn c c' today a) :
    Compiled.evalAll c today operands = Compiled.evalAll c' today operands := by
  induction operands with
  | nil => rfl
  | cons a rest ih =>
    obtain ⟨ha, hrest⟩ := List.forall_mem_cons.1 h
    have hone : a.eval c today = a.eval c' today := by
      cases a with
      | scalar e => exact congrArg (· >>= fun v => pure (Operand.scalar v)) ha
      | dataset p => exact congrArg (· >>= fun d => pure (Operand.dataset d)) ha
    simp only [Compiled.evalAll, hone, ih hrest]

theorem planEvalAll_same {ps : List Plan} (h : ∀ p ∈ ps, SameIn c c' today (.dataset p)) :
    Plan.evalAll c today ps = Plan.evalAll c' today ps := by
  induction ps with
  | nil => rfl
  | cons p rest ih =>
    obtain ⟨hp, hrest⟩ := List.forall_mem_cons.1 h
    have hone : p.eval c today = p.eval c' today := hp
    simp only [Plan.evalAll, hone, ih hrest]

theorem sameIn_lift {env : Env} {build : Builder} {operands : List Compiled} {x : Compiled}
    (h : env.lift build operands = .ok x) (hl : ∀ a ∈ operands, Local [] a)
    (ho : ∀ a ∈ operands, SameIn c c' today a) : SameIn c c' today x := by
  cases x with
  | scalar s => exact sameIn_scalar (local_lift h hl)
  | dataset p =>
    rcases lift_ok h with ⟨_, _, _, he⟩ | ⟨first, rest, _, h⟩
    · cases he
    · obtain ⟨_, outs, s, _, _, he⟩ := liftOver_ok h
      cases he
      change Plan.eval _ _ _ = Plan.eval _ _ _
      simp only [Plan.eval, evalAll_same ho]

theorem sameIn_binary {env : Env} {op : BinaryOp} {l r x : Compiled}
    (h : env.binary op l r = .ok x) (hll : Local [] l) (hlr : Local [] r)
    (hl : SameIn c c' today l) (hr : SameIn c c' today r) : SameIn c c' today x := by
  have hx := local_binary h hll hlr
  rcases binary_ok h with ⟨_, _, _, _, _, _, _, rfl⟩ | h
  · exact sameIn_scalar hx
  · exact sameIn_lift h (List.forall_mem_cons.2 ⟨hll, List.forall_mem_singleton.2 hlr⟩)
      (List.forall_mem_cons.2 ⟨hl, List.forall_mem_singleton.2 hr⟩)

section
variable {source plan : Plan} (hs : SameIn c c' today (.dataset source))
include hs

theorem sameIn_project {names : List String} {keep : Bool} {s : Schema} :
    SameIn c c' today (.dataset (.project source names keep s)) := by
  change Plan.eval _ _ _ = Plan.eval _ _ _
  rw [Plan.eval, Plan.eval, hs]

theorem sameIn_rename {pairs : List (String × String)} {s : Schema} :
    SameIn c c' today (.dataset (.rename source pairs s)) := by
  change Plan.eval _ _ _ = Plan.eval _ _ _
  rw [Plan.eval, Plan.eval, hs]

theorem sameIn_window {fn : WindowFunction} {extent : Extent}
    (h : windowPlan fn extent source = .ok plan) : SameIn c c' today (.dataset plan) := by
  obtain ⟨calls, staged, s, _, _, _, rfl⟩ := windowPlan_ok h
  change Plan.eval _ _ _ = Plan.eval _ _ _
  rw [Plan.eval, Plan.eval, hs]

theorem sameIn_checkHierarchy {rs : HierarchicalRuleset} {component : Option String}
    {validation : ValidationMode} {input : InputMode} {output : OutputMode}
    (h : checkHierarchyPlan config source rs component validation input output = .ok plan) :
    SameIn c c' today (.dataset plan) := by
  obtain ⟨_, target, s, _, _, _, rfl⟩ := checkHierarchyPlan_ok h
  change Plan.eval _ _ _ = Plan.eval _ _ _
  rw [Plan.eval, Plan.eval, hs]

section
variable (ha : (Compiled.dataset source).Agrees c today)
include ha

theorem sameIn_source {next next' : Dataset → Except EvalError Dataset}
    (hn : ∀ d, d.schema = source.schema → next d = next' d) :
    source.eval c today >>= next = source.eval c' today >>= next' := by
  have heq : source.eval c today = source.eval c' today := hs
  rw [← heq]
  cases hd : source.eval c today with
  | error e => rfl
  | ok d => exact hn d (ha d hd)

theorem sameIn_filter {condition : Scalar}
    (hc : Local (Frame.ofSchema source.schema) (.scalar condition)) :
    SameIn c c' today (.dataset (.filter source condition)) := by
  change Plan.eval _ _ _ = Plan.eval _ _ _
  rw [Plan.eval, Plan.eval]
  refine sameIn_source hs ha fun d hd => ?_
  have hday : (c.scope today).today = (c'.scope today).today := rfl
  refine Dataset.filter_outer hday ?_
  rw [hd]
  exact hc.within

theorem sameIn_calculate {items : List CalcItem} {bodies : List (Expr × Scalar)}
    {calculated : List Calculated} (hitems : Items source 0 items bodies calculated)
    (hb : ∀ b ∈ bodies, Local (Frame.ofSchema source.schema) (.scalar b.2))
    (h : calculatePlan source calculated = .ok plan) : SameIn c c' today (.dataset plan) := by
  obtain ⟨staged, assigned, s, _, _, _, rfl⟩ := calculatePlan_ok h
  change Plan.eval _ _ _ = Plan.eval _ _ _
  rw [Plan.eval, Plan.eval]
  refine sameIn_source hs ha fun d hd => ?_
  have hday : (c.scope today).today = (c'.scope today).today := rfl
  refine Dataset.calculateOver_outer hday ?_
  rw [hd]
  exact hitems.reads fun b hm => (hb b hm).within

theorem sameIn_checkDatapoint {rs : DatapointRuleset} {components : List String} {inner : Frame}
    {bodies : List (Expr × Scalar)} {rules : List RowRule} {mode : OutputMode}
    (hframe : rulesetFrame rs source components = .ok inner)
    (hrules : Rules rs.rules bodies rules) (hb : ∀ b ∈ bodies, Local inner (.scalar b.2))
    (h : checkDatapointPlan source inner rules mode = .ok plan) :
    SameIn c c' today (.dataset plan) := by
  obtain ⟨s, _, rfl⟩ := checkDatapointPlan_ok h
  change Plan.eval _ _ _ = Plan.eval _ _ _
  rw [Plan.eval, Plan.eval]
  refine sameIn_source hs ha fun d hd => ?_
  have hday : (c.scope today).today = (c'.scope today).today := rfl
  refine DatapointCheck.evaluate_outer hday ?_
  rw [hd]
  refine hrules.within fun b hm n t hr => ?_
  obtain ⟨m, hm, rfl, _⟩ := rulesetFrame_declares hframe (hb b hm n t hr)
  exact Schema.mem_names.2 ⟨m, hm, rfl⟩

theorem sameIn_check {other : Option Plan} {type : Option ScalarType} {code level : Scalar}
    {invalid : Bool} (ho : ∀ q, other = some q → SameIn c c' today (.dataset q))
    (hc : Local [] (.scalar code)) (hl : Local [] (.scalar level))
    (h : checkPlan source other type code level invalid = .ok plan) :
    SameIn c c' today (.dataset plan) := by
  obtain ⟨s, _, rfl⟩ := checkPlan_ok h
  have hother : Plan.evalOption c today other = Plan.evalOption c' today other := by
    cases other with
    | none => rfl
    | some q =>
      have heq : q.eval c today = q.eval c' today := ho q rfl
      rw [Plan.evalOption, Plan.evalOption, heq]
  change Plan.eval _ _ _ = Plan.eval _ _ _
  rw [Plan.eval, Plan.eval, hother]
  refine sameIn_source hs ha fun d _ => congrArg _ (funext fun value => ?_)
  have hday : (c.scope today).today = (c'.scope today).today := rfl
  exact Check.evaluate_outer hday (fun n t hr => absurd (hc n t hr) (Frame.not_provides_nil n t))
    fun n t hr => absurd (hl n t hr) (Frame.not_provides_nil n t)

end
end

theorem sameIn_combine {op : SetOp} {ps : List Plan} {plan : Plan}
    (hs : ∀ p ∈ ps, SameIn c c' today (.dataset p)) (h : combinePlan op ps = .ok plan) :
    SameIn c c' today (.dataset plan) := by
  obtain ⟨first, rest, rfl, _, rfl⟩ := combinePlan_ok h
  change Plan.eval _ _ _ = Plan.eval _ _ _
  rw [Plan.eval, Plan.eval, planEvalAll_same hs]

theorem OptionalScalar.reads {type : ScalarType} {arg : Option Expr} {s : Scalar}
    (h : OptionalScalar type arg s) {f : Frame} (hs : ∀ e, arg = some e → Local f (.scalar s)) :
    Local f (.scalar s) := by
  cases arg with
  | none =>
    rw [h.1 rfl]
    exact fun _ _ hr => nomatch hr
  | some e => exact hs e rfl

/-- What is compiled where no names are given evaluates alike in contexts that agree on what it
    mentions: one case for each node. -/
theorem Compiles.sameIn {f : Frame} {e : Expr} {x : Compiled} (h : Compiles ⟨c, config⟩ f e x)
    (hf : f = []) (hagree : ∀ n ∈ e.mentions, c.get? n.name = c'.get? n.name) :
    SameIn c c' today x := by
  induction h with
  | literal => exact rfl
  | @name f p n x h =>
    subst hf
    have hn : c.get? n = c'.get? n := hagree (.identifier n) (List.mem_singleton_self _)
    rcases name_ok h with ⟨_, _, hf, _⟩ | ⟨type, v, hb, rfl⟩ | ⟨d, hb, rfl⟩
    · cases hf
    · exact rfl
    · change Plan.eval _ _ _ = Plan.eval _ _ _
      rw [Plan.eval_named hb, Plan.eval_named (hn.symm.trans hb)]
  | unary he h ih =>
    subst hf
    exact sameIn_lift h (List.forall_mem_singleton.2 he.reads)
      (List.forall_mem_singleton.2 (ih rfl hagree))
  | binary hl hr h ihl ihr =>
    subst hf
    simp only [Expr.mentions, List.forall_mem_append] at hagree
    exact sameIn_binary h hl.reads hr.reads (ihl rfl hagree.1) (ihr rfl hagree.2)
  | conditional ht hy hn h =>
    subst hf
    have hx := local_conditional h ht.reads hy.reads hn.reads
    obtain ⟨_, _, _, rfl⟩ := conditional_ok h
    exact sameIn_scalar hx
  | cast he h ih =>
    subst hf
    exact sameIn_lift h (List.forall_mem_singleton.2 he.reads)
      (List.forall_mem_singleton.2 (ih rfl hagree))
  | call hlen hargs h ih =>
    subst hf
    refine sameIn_lift h (fun a ha => ?_) fun a ha => ?_
    · obtain ⟨e, he⟩ := exists_mem_zip hlen ha
      exact (hargs e a he).reads
    · obtain ⟨e, he⟩ := exists_mem_zip hlen ha
      exact ih e a he rfl fun m hm => hagree m (mem_mentionsAll.2 ⟨e, (List.of_mem_zip he).1, hm⟩)
  | member he h ih =>
    subst hf
    exact sameIn_lift h (List.forall_mem_singleton.2 he.reads)
      (List.forall_mem_singleton.2 (ih rfl hagree))
  | select he h ih =>
    obtain ⟨s, _, rfl⟩ := selectPlan_ok h
    exact sameIn_project (ih hf hagree)
  | filter he hc _ ih =>
    simp only [Expr.mentions, List.forall_mem_append] at hagree
    exact sameIn_filter (ih hf hagree.1) (he.agrees today) hc.reads
  | keep he h ih =>
    obtain ⟨s, _, rfl⟩ := projectPlan_ok h
    exact sameIn_project (ih hf hagree)
  | drop he h ih =>
    obtain ⟨s, _, rfl⟩ := projectPlan_ok h
    exact sameIn_project (ih hf hagree)
  | rename he h ih =>
    obtain ⟨s, _, rfl⟩ := renamePlan_ok h
    exact sameIn_rename (ih hf hagree)
  | calculate he hitems hbodies h ih =>
    simp only [Expr.mentions, List.forall_mem_append] at hagree
    refine sameIn_calculate (ih hf hagree.1) (he.agrees today) hitems ?_ h
    exact fun b hb => (hbodies b.1 b.2 hb).reads
  | combine _ hlen _ h ih =>
    refine sameIn_combine (fun p hp => ?_) h
    obtain ⟨e, he⟩ := exists_mem_zip hlen hp
    exact ih e p he hf fun m hm => hagree m (mem_mentionsAll.2 ⟨e, (List.of_mem_zip he).1, hm⟩)
  | window he h ih => exact sameIn_window (ih hf hagree) h
  | checkDatapoint he _ hframe hrules hbodies h ih =>
    refine sameIn_checkDatapoint (ih hf (List.forall_mem_cons.1 hagree).2) (he.agrees today) hframe
      hrules ?_ h
    exact fun b hb => (hbodies b.1 b.2 hb).reads
  | check he _ hsome hother _ hcode hc hlevel hl h ih iho =>
    subst hf
    simp only [Expr.mentions, List.forall_mem_append] at hagree
    refine sameIn_check (ih rfl hagree.1.1.1) (he.agrees today) (fun q hq => ?_)
      (hc.reads fun i hi => (hcode i hi).reads) (hl.reads fun i hi => (hlevel i hi).reads) h
    obtain ⟨i, hi⟩ := Option.isSome_iff_exists.1 (hsome.trans (by rw [hq]; rfl))
    subst hi
    exact iho i q rfl hq rfl hagree.1.1.2
  | checkHierarchy he _ h ih =>
    exact sameIn_checkHierarchy (ih hf (List.forall_mem_cons.1 hagree).2) h

end Compile

namespace Session

open Compile

variable {c c' : Context}

theorem outcome_congr (config : Config) (engine : Engine) (today : Date) (st : Statement)
    (h : ∀ m, st.Reaches c m → c.get? m.name = c'.get? m.name) :
    outcome ⟨config, engine, c⟩ today st = outcome ⟨config, engine, c'⟩ today st := by
  cases st with
  | assign p target e =>
    have hcompile : compile ⟨c, config⟩ e = compile ⟨c', config⟩ e :=
      compile_congr fun m hm => congrArg (Option.map Binding.outline) (h m hm)
    simp only [outcome, compileExpr]
    rw [← hcompile]
    cases hx : compile ⟨c, config⟩ e with
    | error err => rfl
    | ok x =>
      have hsame : SameIn c c' today x :=
        (compile_compiles hx).sameIn rfl fun m hm => h m (.here hm)
      simp only [Bind.bind, Except.bind, hsame.bindingOf]
  | defineDatapoint p name domain vars rules => rfl
  | defineHierarchy p name domain codes rules => rfl

/-- A statement executed in two contexts that agree on all it mentions, itself or in the rules of
    the datapoint rulesets it applies, fails alike or binds its target to the same. -/
theorem execute_of_agree (config : Config) (engine : Engine) (today : Date) (st : Statement)
    (h : ∀ m, st.Reaches c m → c.get? m.name = c'.get? m.name) :
    (execute ⟨config, engine, c⟩ today st).2 = (execute ⟨config, engine, c'⟩ today st).2 ∧
      ∀ b, (execute ⟨config, engine, c⟩ today st).2 = .ok b →
        (execute ⟨config, engine, c⟩ today st).1.context.get? st.target = some b ∧
        (execute ⟨config, engine, c'⟩ today st).1.context.get? st.target = some b := by
  have ho := outcome_congr config engine today st h
  unfold execute
  rw [← ho]
  cases outcome ⟨config, engine, c⟩ today st with
  | error e =>
    refine ⟨rfl, fun b hb => ?_⟩
    cases hb
  | ok b =>
    refine ⟨rfl, fun b' hb => ?_⟩
    cases hb
    exact ⟨Context.get?_set_self .., Context.get?_set_self ..⟩

def limitedBeside : Context :=
  (limited.set "k" (.scalar none .null)).set "report" (.dataset tally)

theorem reaches_limitedCheck {m : Mention} (h : Reaches limited limitedCheck m) :
    m ∈ [.ruleset "low", .identifier "D", .identifier "m", .identifier "limit"] := by
  refine h.mem (fun n rs hn hrs r hr i hi => ?_) (by decide)
  simp only [List.mem_cons, List.not_mem_nil, Mention.ruleset.injEq, reduceCtorEq, or_false] at hn
  subst hn
  cases hrs
  cases List.mem_singleton.1 hr
  cases List.mem_singleton.1 hi
  decide

set_option maxRecDepth 4000 in
theorem execute_of_agree_limited :
    ∃ d, (execute ⟨{}, .memory, limited⟩ .epoch (.assign {} "report" limitedCheck)).2 =
        .ok (.dataset d) ∧
      d.rows = [[.integer 2, .string "low_1", .integer 7, .null, .null]] ∧
      limitedBeside.get? "report" = some (.dataset tally) ∧
      (execute ⟨{}, .memory, limitedBeside⟩ .epoch
        (.assign {} "report" limitedCheck)).1.context.get? "report" = some (.dataset d) := by
  have hrun : ∃ d, (execute ⟨{}, .memory, limited⟩ .epoch (.assign {} "report" limitedCheck)).2 =
        .ok (.dataset d) ∧
      d.rows = [[.integer 2, .string "low_1", .integer 7, .null, .null]] := ⟨_, rfl, rfl⟩
  obtain ⟨d, hd, hrows⟩ := hrun
  refine ⟨d, hd, hrows, rfl, ?_⟩
  refine ((execute_of_agree {} .memory .epoch (.assign {} "report" limitedCheck) ?_).2 _ hd).2
  intro m hm
  have hapart : ∀ m ∈ [Mention.ruleset "low", .identifier "D", .identifier "m",
      .identifier "limit"], m.name ≠ "report" ∧ m.name ≠ "k" := by decide
  have hne := hapart m (reaches_limitedCheck hm)
  rw [limitedBeside, Context.get?_set_of_ne _ _ hne.1, Context.get?_set_of_ne _ _ hne.2]

end Session
end Tabular
