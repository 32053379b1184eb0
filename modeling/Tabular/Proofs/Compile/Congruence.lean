import Tabular.Proofs.Compile.Depth
import Tabular.Proofs.Compile.Likeness

set_option autoImplicit false

namespace Tabular.Compile

section
variable {L : Likeness} (F : Frame → Frame → Prop) (env env' : Env) (rules rules' : RuleCompiler)

/-- A mention comes to the same, as far as the likeness tells, on both sides. -/
def Likeness.Agrees (L : Likeness) : Mention → Prop
  | .identifier n => ∀ f f', F f f' → Paired L.Both (env.name f n) (env'.name f' n)
  | .ruleset n => env.hierarchicalRuleset n = env'.hierarchicalRuleset n ∧
    env.datapointRuleset n = env'.datapointRuleset n ∧
    ∀ rs, env.datapointRuleset n = .ok rs → ∀ source components inner,
      rulesetFrame rs source components = .ok inner →
      Paired (List.Forall₂ L.Rule) (rowRules (rules inner) rs.rules)
        (rowRules (rules' inner) rs.rules)

/-- Two sides on which nodes over parts that are like are like. -/
structure Likeness.Sides (L : Likeness) : Prop where
  nodes : L.Congruent
  settings : env.Like L env'
  frames : ∀ s, F (Frame.ofSchema s) (Frame.ofSchema s)

end

namespace Likeness.Sides

variable {L : Likeness} {F : Frame → Frame → Prop} {env env' : Env} {rules rules' : RuleCompiler}

theorem operandScalar {x y : Result Compiled} (p : Position) (h : Paired L.Both x y) :
    Paired L.scalar (x >>= Compile.asScalar p) (y >>= Compile.asScalar p) :=
  h.bind fun _ _ h => Congruent.asScalar p h

theorem operandPlan {x y : Result Compiled} (p : Position) (h : Paired L.Both x y) :
    Paired L.plan (x >>= Compile.asPlan p) (y >>= Compile.asPlan p) :=
  h.bind fun _ _ h => Congruent.asPlan p h

theorem dataset {x y : Except CompileFault Plan} (p : Position) (h : Paired L.plan x y) :
    Paired L.Both (located p x >>= fun q => pure (.dataset q))
      (located p y >>= fun q => pure (.dataset q)) :=
  (located_paired p h).bind fun _ _ h => .ok (.dataset h)

theorem operandLift (S : L.Sides F env env') (p : Position) (build : Builder)
    {x y : Result Compiled} (h : Paired L.Both x y) :
    Paired L.Both (x >>= fun a => located p (env.lift build [a]))
      (y >>= fun b => located p (env'.lift build [b])) :=
  h.bind fun _ _ h => located_paired p (S.nodes.lift (.cons h .nil) S.settings _)

mutual

/-- Nodes are like as soon as their parts are. -/
theorem expr (S : L.Sides F env env') : ∀ (e : Expr) {f f' : Frame}, F f f' →
    (∀ m ∈ e.mentions, L.Agrees F env env' rules rules' m) →
    Paired L.Both (Compile.expr env rules f e) (Compile.expr env' rules' f' e)
  | .literal p v, f, f', hf, hm => by
    simp only [Compile.expr]
    exact .ok (.scalar (S.nodes.literal _ _))
  | .name p n, f, f', hf, hm => by
    simp only [Compile.expr]
    exact located_paired p (hm (.identifier n) (by simp [Expr.mentions]) f f' hf)
  | .unary p op e, f, f', hf, hm => by
    simp only [Compile.expr]
    simp only [Expr.mentions] at hm
    exact S.operandLift p _ (expr S e hf hm)
  | .binary p op l r, f, f', hf, hm => by
    simp only [Compile.expr]
    simp only [Expr.mentions, List.forall_mem_append] at hm
    exact (expr S l hf hm.1).bind fun _ _ hl => (expr S r hf hm.2).bind fun _ _ hr =>
      located_paired p (S.nodes.binary S.settings op hl hr)
  | .conditional p t a b, f, f', hf, hm => by
    simp only [Compile.expr]
    simp only [Expr.mentions, List.forall_mem_append] at hm
    refine (operandScalar t.position (expr S t hf hm.1.1)).bind fun _ _ ht => ?_
    refine (operandScalar a.position (expr S a hf hm.1.2)).bind fun _ _ ha => ?_
    refine (operandScalar b.position (expr S b hf hm.2)).bind fun _ _ hb => ?_
    exact located_paired p (S.nodes.conditionalOf S.settings ht ha hb)
  | .cast p e target, f, f', hf, hm => by
    simp only [Compile.expr]
    simp only [Expr.mentions] at hm
    exact S.operandLift p _ (expr S e hf hm)
  | .call p (.timeSeries fn) args, f, f', hf, hm => by
    simp only [Compile.expr]
    exact .error _
  | .call p (.scalar fn) args, f, f', hf, hm => by
    simp only [Compile.expr]
    simp only [Expr.mentions] at hm
    refine (exprs S args hf hm).bind fun as bs hab => ?_
    rw [S.nodes.known? hab, S.settings.patterns]
    exact located_paired p (S.nodes.lift hab S.settings _)
  | .member p e set negated, f, f', hf, hm => by
    simp only [Compile.expr]
    simp only [Expr.mentions] at hm
    exact S.operandLift p _ (expr S e hf hm)
  | .select p e component, f, f', hf, hm => by
    simp only [Compile.expr]
    simp only [Expr.mentions] at hm
    exact (operandPlan e.position (expr S e hf hm)).bind fun _ _ h =>
      dataset p (S.nodes.selectPlan h component)
  | .filter p e condition, f, f', hf, hm => by
    simp only [Compile.expr]
    simp only [Expr.mentions, List.forall_mem_append] at hm
    refine (operandPlan e.position (expr S e hf hm.1)).bind fun source source' h => ?_
    rw [S.nodes.schema h]
    have hcondition := expr S condition (S.frames source'.schema) hm.2
    refine (operandScalar condition.position hcondition).bind fun c d hc => ?_
    rw [S.nodes.type hc]
    exact .bind_same _ fun _ => .ok (.dataset (S.nodes.filter h hc))
  | .keep p e names, f, f', hf, hm => by
    simp only [Compile.expr]
    simp only [Expr.mentions] at hm
    exact (operandPlan e.position (expr S e hf hm)).bind fun _ _ h =>
      dataset p (S.nodes.projectPlan h names true)
  | .drop p e names, f, f', hf, hm => by
    simp only [Compile.expr]
    simp only [Expr.mentions] at hm
    exact (operandPlan e.position (expr S e hf hm)).bind fun _ _ h =>
      dataset p (S.nodes.projectPlan h names false)
  | .rename p e pairs, f, f', hf, hm => by
    simp only [Compile.expr]
    simp only [Expr.mentions] at hm
    exact (operandPlan e.position (expr S e hf hm)).bind fun _ _ h =>
      dataset p (S.nodes.renamePlan h pairs)
  | .calculate p e items, f, f', hf, hm => by
    simp only [Compile.expr]
    simp only [Expr.mentions, List.forall_mem_append] at hm
    refine (operandPlan e.position (expr S e hf hm.1)).bind fun source source' h => ?_
    exact (calcItems S h 0 items hm.2).bind fun _ _ hitems =>
      dataset p (S.nodes.calculatePlan h hitems)
  | .combine p op es, f, f', hf, hm => by
    simp only [Compile.expr]
    simp only [Expr.mentions] at hm
    split
    · exact (planExprs S es hf hm).bind fun _ _ hes => dataset p (S.nodes.combinePlan op hes)
    · exact .error _
  | .window p fn e extent, f, f', hf, hm => by
    simp only [Compile.expr]
    simp only [Expr.mentions] at hm
    refine (expr S e hf hm).bind fun _ _ h => ?_
    cases h with
    | scalar _ => exact .error _
    | dataset h => exact dataset p (S.nodes.windowPlan h fn extent)
  | .checkDatapoint p e ruleset components mode, f, f', hf, hm => by
    simp only [Compile.expr]
    simp only [Expr.mentions, List.forall_mem_cons] at hm
    obtain ⟨⟨_, hrs, hrules⟩, hm⟩ := hm
    refine (operandPlan e.position (expr S e hf hm)).bind fun source source' h => ?_
    rw [← hrs]
    refine .bind_ok _ fun rs hr => ?_
    rw [← S.nodes.rulesetFrame h]
    refine .bind_ok _ fun inner hi => ?_
    have hbodies := hrules rs (located_ok hr) source components inner (located_ok hi)
    exact hbodies.bind fun _ _ hs => dataset p (S.nodes.checkDatapointPlan h inner hs mode)
  | .check p e code level imbalance invalid, f, f', hf, hm => by
    simp only [Compile.expr]
    simp only [Expr.mentions, List.forall_mem_append] at hm
    refine (operandPlan e.position (expr S e hf hm.1.1.1)).bind fun condition condition' h => ?_
    rw [S.nodes.schema h, S.nodes.name h]
    refine .bind_same _ fun _ => (planExpr? S imbalance hf hm.1.1.2).bind fun other other' ho => ?_
    rw [S.nodes.imbalanceType ho]
    refine .bind_same _ fun type => ?_
    refine (optionalScalar S .string code hf hm.1.2).bind fun _ _ hc => ?_
    refine (optionalScalar S .integer level hf hm.2).bind fun _ _ hl => ?_
    exact dataset p (S.nodes.checkPlan h ho type hc hl invalid)
  | .checkHierarchy p e ruleset component validation input output, f, f', hf, hm => by
    simp only [Compile.expr]
    simp only [Expr.mentions, List.forall_mem_cons] at hm
    obtain ⟨⟨hrs, _⟩, hm⟩ := hm
    refine (operandPlan e.position (expr S e hf hm)).bind fun source source' h => ?_
    rw [hrs]
    refine .bind_same _ fun rs => ?_
    exact dataset p (S.nodes.checkHierarchyPlan h S.settings rs component validation input output)

theorem exprs (S : L.Sides F env env') : ∀ (es : List Expr) {f f' : Frame}, F f f' →
    (∀ m ∈ mentionsAll es, L.Agrees F env env' rules rules' m) →
    Paired (List.Forall₂ L.Both) (Compile.exprs env rules f es) (Compile.exprs env' rules' f' es)
  | [], f, f', hf, hm => by
    simp only [Compile.exprs]
    exact .ok .nil
  | e :: rest, f, f', hf, hm => by
    simp only [Compile.exprs]
    simp only [mentionsAll, List.forall_mem_append] at hm
    exact (expr S e hf hm.1).bind fun _ _ h =>
      (exprs S rest hf hm.2).bind fun _ _ hs => .ok (.cons h hs)

theorem planExprs (S : L.Sides F env env') : ∀ (es : List Expr) {f f' : Frame}, F f f' →
    (∀ m ∈ mentionsAll es, L.Agrees F env env' rules rules' m) →
    Paired (List.Forall₂ L.plan) (Compile.planExprs env rules f es)
      (Compile.planExprs env' rules' f' es)
  | [], f, f', hf, hm => by
    simp only [Compile.planExprs]
    exact .ok .nil
  | e :: rest, f, f', hf, hm => by
    simp only [Compile.planExprs]
    simp only [mentionsAll, List.forall_mem_append] at hm
    refine (operandPlan e.position (expr S e hf hm.1)).bind fun _ _ h => ?_
    exact (planExprs S rest hf hm.2).bind fun _ _ hs => .ok (.cons h hs)

theorem planExpr? (S : L.Sides F env env') : ∀ (e : Option Expr) {f f' : Frame}, F f f' →
    (∀ m ∈ mentionsOption e, L.Agrees F env env' rules rules' m) →
    Paired (Option.Rel L.plan) (Compile.planExpr? env rules f e)
      (Compile.planExpr? env' rules' f' e)
  | none, f, f', hf, hm => by
    simp only [Compile.planExpr?]
    exact .ok .none
  | some e, f, f', hf, hm => by
    simp only [Compile.planExpr?]
    simp only [mentionsOption] at hm
    exact (operandPlan e.position (expr S e hf hm)).bind fun _ _ h => .ok (.some h)

theorem optionalScalar (S : L.Sides F env env') (type : ScalarType) :
    ∀ (e : Option Expr) {f f' : Frame}, F f f' →
    (∀ m ∈ mentionsOption e, L.Agrees F env env' rules rules' m) →
    Paired L.scalar (Compile.optionalScalar env rules f type e)
      (Compile.optionalScalar env' rules' f' type e)
  | none, f, f', hf, hm => by
    simp only [Compile.optionalScalar]
    exact .ok (S.nodes.literal _ _)
  | some e, f, f', hf, hm => by
    simp only [Compile.optionalScalar]
    simp only [mentionsOption] at hm
    refine (operandScalar e.position (expr S e hf hm)).bind fun a b h => ?_
    rw [S.nodes.type h]
    exact .bind_same _ fun _ => .ok h

theorem calcItems (S : L.Sides F env env') {source source' : Plan} (h : L.plan source source') :
    ∀ (n : Nat) (items : List CalcItem),
      (∀ m ∈ mentionsItems items, L.Agrees F env env' rules rules' m) →
      Paired (List.Forall₂ L.Item) (Compile.calcItems env rules source n items)
        (Compile.calcItems env' rules' source' n items)
  | n, [], hm => by
    simp only [Compile.calcItems]
    exact .ok .nil
  | n, .mk name role e :: rest, hm => by
    simp only [mentionsItems, List.forall_mem_append] at hm
    obtain ⟨p, fn, q, component, extent, rfl⟩ | ⟨p, fn, operand, extent, rfl, ho⟩ | hp :=
      item_cases e
    · simp only [calcItems_window]
      rw [S.nodes.schema h]
      refine .bind_same _ fun _ => ?_
      refine (located_paired p (S.nodes.windowItem h name role n fn component extent)).bind ?_
      exact fun _ _ hi => (calcItems S h (n + 1) rest hm.2).bind fun _ _ hs => .ok (.cons hi hs)
    · simp only [calcItems_operand _ _ _ _ _ _ _ _ _ ho]
      rw [S.nodes.schema h]
      exact .bind_same _ fun _ => .error _
    · simp only [calcItems_plain _ _ _ _ _ _ hp]
      rw [S.nodes.schema h]
      refine .bind_same _ fun _ => ?_
      refine (operandScalar e.position (expr S e (S.frames _) hm.1)).bind fun a b ha => ?_
      exact (calcItems S h n rest hm.2).bind fun _ _ hs => .ok (.cons ⟨⟨rfl, rfl, ha⟩, rfl⟩ hs)

end
end Likeness.Sides

def identity : Likeness := ⟨Eq, Eq⟩

namespace identity

theorem both_iff {c d : Compiled} : identity.Both c d ↔ c = d := by
  constructor
  · rintro (h | h)
    · exact congrArg Compiled.scalar h
    · exact congrArg Compiled.dataset h
  · rintro rfl
    cases c with
    | scalar e => exact .scalar rfl
    | dataset p => exact .dataset rfl

theorem column {a b : CalcColumn} (h : identity.Column a b) : a = b := by
  cases a
  cases b
  cases h.name
  cases h.role
  cases h.expression
  rfl

theorem option {α : Type} {a b : Option α} : Option.Rel Eq a b ↔ a = b := by
  constructor
  · rintro (rfl | _)
    · rfl
    · rfl
  · rintro rfl
    cases a with
    | none => exact .none
    | some a => exact .some rfl

theorem rule_iff {a b : RowRule} : identity.Rule a b ↔ a = b := by
  constructor
  · intro h
    cases a
    cases b
    cases h.id
    cases option.1 h.antecedent
    cases h.consequent
    cases h.code
    cases h.level
    rfl
  · rintro rfl
    exact ⟨rfl, option.2 rfl, rfl, rfl, rfl⟩

theorem list {α : Type} {R : α → α → Prop} (hR : ∀ a b, R a b → a = b) {xs ys : List α}
    (h : List.Forall₂ R xs ys) : xs = ys :=
  List.forall₂_eq_eq_eq ▸ h.imp hR

theorem congruent : identity.Congruent where
  type h := congrArg _ h
  known h := congrArg _ h
  literal v t := rfl
  read n t := rfl
  apply op as bs h := congrArg _ (list (fun _ _ h => h) h)
  shortCircuit dominant l l' r r' hl hr := congrArg₂ _ hl hr
  conditional type t t' y y' n n' ht hy hn := by
    cases ht
    exact congrArg₂ (Scalar.conditional t · · type) hy hn
  schema h := congrArg _ h
  name h := congrArg _ h
  rename pairs s h := congrArg (Plan.rename · pairs s) h
  project names keep s h := congrArg (Plan.project · names keep s) h
  filter h ha := congrArg₂ _ h ha
  calculate calls as bs s h ha :=
    congrArg₂ (Plan.calculate · calls · s) h (list (fun _ _ => column) ha)
  windowed calls attributes s h := congrArg (Plan.windowed · calls attributes s) h
  map m s h := congrArg (Plan.map · m s) (list (fun _ _ => both_iff.1) h)
  combine op ps qs s h := congrArg (Plan.combine op · s) (list (fun _ _ h => h) h)
  checkDatapoint measures mode s h ha :=
    congrArg₂ (fun p rules => Plan.checkDatapoint p ⟨rules, measures, mode⟩ s) h
      (list (fun _ _ => rule_iff.1) ha)
  check mode s h hab hc hl := by
    cases h
    cases option.1 hab
    exact congrArg₂ (fun c l => Plan.check _ _ ⟨c, l, mode⟩ s) hc hl
  checkHierarchy check s h := congrArg (Plan.checkHierarchy · check s) h

end identity

/-- Whatever an expression mentions comes to the same in two environments. -/
def SameMention (env env' : Env) (rules rules' : RuleCompiler) : Mention → Prop
  | .identifier n => ∀ f, env.name f n = env'.name f n
  | .ruleset n => env.hierarchicalRuleset n = env'.hierarchicalRuleset n ∧
    env.datapointRuleset n = env'.datapointRuleset n ∧
    ∀ rs, env.datapointRuleset n = .ok rs → ∀ source components inner,
      rulesetFrame rs source components = .ok inner →
      rowRules (rules inner) rs.rules = rowRules (rules' inner) rs.rules

theorem expr_congr {env env' : Env} {rules rules' : RuleCompiler} {f : Frame}
    (hconfig : env.config = env'.config) (e : Expr)
    (hm : ∀ m ∈ e.mentions, SameMention env env' rules rules' m) :
    expr env rules f e = expr env' rules' f e := by
  have hlike : env.Like identity env' := {
    fold := by
      rintro a _ rfl
      exact congrArg (fun c : Config => if c.foldConstants then a.fold else a) hconfig
    policy := congrArg _ hconfig
    keepComponent := congrArg _ hconfig
    patterns := congrArg _ hconfig }
  have hagrees : ∀ m ∈ e.mentions, identity.Agrees Eq env env' rules rules' m := by
    intro m hmem
    have hsame := hm m hmem
    cases m with
    | identifier n =>
      rintro f _ rfl
      rw [hsame f]
      exact .refl (fun c => identity.both_iff.2 rfl) _
    | ruleset n =>
      obtain ⟨hh, hd, hrules⟩ := hsame
      refine ⟨hh, hd, fun rs hrs source components inner hinner => ?_⟩
      rw [hrules rs hrs source components inner hinner]
      exact .refl (fun _ => List.forall₂_same.2 fun r _ => identity.rule_iff.2 rfl) _
  have hsides : identity.Sides Eq env env' := ⟨identity.congruent, hlike, fun _ => rfl⟩
  have h := hsides.expr e (rfl : f = f) hagrees
  exact (h.imp fun _ _ h => identity.both_iff.1 h).eq

theorem rowRules_congr {compile compile' : Expr → Result Compiled} {rs : List DatapointRule}
    (h : ∀ r ∈ rs, ∀ e ∈ r.expressions, compile e = compile' e) :
    rowRules compile rs = rowRules compile' rs := by
  have hboth : ∀ r ∈ rs, ∀ e ∈ r.expressions,
      Paired identity.Both (compile e) (compile' e) := by
    intro r hr e he
    rw [h r hr e he]
    exact .refl (fun _ => identity.both_iff.2 rfl) _
  have hrules := identity.congruent.rowRules hboth
  exact (hrules.imp fun _ _ => identity.list fun _ _ => identity.rule_iff.1).eq

end Tabular.Compile
