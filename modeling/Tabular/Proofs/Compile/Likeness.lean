import Mathlib.Data.List.Forall2
import Tabular.Compile.Expr
import Tabular.Proofs.Compile.Mentions
import Tabular.Proofs.Outcome

set_option autoImplicit false

/-!
# Likenesses

A likeness relates scalar expressions and plans on two sides. It is congruent when it is kept by
everything they are built from. Of their sources the functions that build plans look only at what a
congruent likeness keeps: the structure, the name in messages, the type and, for an argument that
has to be known, the value. So on sources that are like they give results that are like, or the
same fault.
-/
namespace Tabular

section
variable {α β : Type} {R : α → β → Prop} {xs : List α} {ys : List β}

theorem find?_like (h : List.Forall₂ R xs ys) {p : α → Bool} {q : β → Bool}
    (hpq : ∀ a b, R a b → p a = q b) : Option.Rel R (xs.find? p) (ys.find? q) := by
  induction h with
  | nil => exact .none
  | @cons x y _ _ hxy _ ih =>
    rw [List.find?_cons, List.find?_cons, hpq x y hxy]
    cases q y with
    | true => exact .some hxy
    | false => exact ih

theorem filterMap_like {γ δ : Type} {S : γ → δ → Prop} (h : List.Forall₂ R xs ys)
    {f : α → Option γ} {g : β → Option δ} (hfg : ∀ a b, R a b → Option.Rel S (f a) (g b)) :
    List.Forall₂ S (xs.filterMap f) (ys.filterMap g) := by
  induction h with
  | nil => exact .nil
  | @cons x y _ _ hxy _ ih =>
    have hx := hfg x y hxy
    rw [List.filterMap_cons, List.filterMap_cons]
    generalize f x = a, g y = b at hx
    cases hx with
    | none => exact ih
    | some hx => exact .cons hx ih

theorem map_like {γ : Type} (h : List.Forall₂ R xs ys) {f : α → γ} {g : β → γ}
    (hfg : ∀ a b, R a b → f a = g b) : xs.map f = ys.map g := by
  induction h with
  | nil => rfl
  | cons hxy _ ih => rw [List.map_cons, List.map_cons, hfg _ _ hxy, ih]

end

namespace Compile

structure Likeness where
  scalar : Scalar → Scalar → Prop
  plan : Plan → Plan → Prop

namespace Likeness

inductive Both (L : Likeness) : Compiled → Compiled → Prop
  | scalar {a b : Scalar} (h : L.scalar a b) : Both L (.scalar a) (.scalar b)
  | dataset {p q : Plan} (h : L.plan p q) : Both L (.dataset p) (.dataset q)

structure Column (L : Likeness) (a b : CalcColumn) : Prop where
  name : a.name = b.name
  role : a.role = b.role
  expression : L.scalar a.expression b.expression

structure Item (L : Likeness) (a b : Calculated) : Prop where
  column : L.Column a.column b.column
  call : a.call = b.call

structure Rule (L : Likeness) (a b : RowRule) : Prop where
  id : a.id = b.id
  antecedent : Option.Rel L.scalar a.antecedent b.antecedent
  consequent : L.scalar a.consequent b.consequent
  code : a.code = b.code
  level : a.level = b.level

/-- Kept by whatever scalar expressions and plans are built from. -/
structure Congruent (L : Likeness) : Prop where
  type : ∀ {a b}, L.scalar a b → a.type? = b.type?
  known : ∀ {a b}, L.scalar a b → a.known? = b.known?
  literal : ∀ v t, L.scalar (.literal v t) (.literal v t)
  read : ∀ n t, L.scalar (.read n t) (.read n t)
  apply : ∀ op {as bs}, List.Forall₂ L.scalar as bs → L.scalar (.apply op as) (.apply op bs)
  shortCircuit : ∀ dominant {l l' r r'}, L.scalar l l' → L.scalar r r' →
    L.scalar (.shortCircuit dominant l r) (.shortCircuit dominant l' r')
  conditional : ∀ type {t t' y y' n n'}, L.scalar t t' → L.scalar y y' → L.scalar n n' →
    L.scalar (.conditional t y n type) (.conditional t' y' n' type)
  schema : ∀ {p q}, L.plan p q → p.schema = q.schema
  name : ∀ {p q}, L.plan p q → p.name = q.name
  rename : ∀ {p q} pairs s, L.plan p q → L.plan (.rename p pairs s) (.rename q pairs s)
  project : ∀ {p q} names keep s, L.plan p q →
    L.plan (.project p names keep s) (.project q names keep s)
  filter : ∀ {p q a b}, L.plan p q → L.scalar a b → L.plan (.filter p a) (.filter q b)
  calculate : ∀ {p q} calls {as bs} s, L.plan p q → List.Forall₂ L.Column as bs →
    L.plan (.calculate p calls as s) (.calculate q calls bs s)
  windowed : ∀ {p q} calls attributes s, L.plan p q →
    L.plan (.windowed p calls attributes s) (.windowed q calls attributes s)
  map : ∀ {as bs} m s, List.Forall₂ L.Both as bs → L.plan (.map as m s) (.map bs m s)
  combine : ∀ op {ps qs} s, List.Forall₂ L.plan ps qs →
    L.plan (.combine op ps s) (.combine op qs s)
  checkDatapoint : ∀ {p q as bs} measures mode s, L.plan p q → List.Forall₂ L.Rule as bs →
    L.plan (.checkDatapoint p ⟨as, measures, mode⟩ s) (.checkDatapoint q ⟨bs, measures, mode⟩ s)
  check : ∀ {p q a b c d l m} mode s, L.plan p q → Option.Rel L.plan a b → L.scalar c d →
    L.scalar l m → L.plan (.check p a ⟨c, l, mode⟩ s) (.check q b ⟨d, m, mode⟩ s)
  checkHierarchy : ∀ {p q} check s, L.plan p q →
    L.plan (.checkHierarchy p check s) (.checkHierarchy q check s)

end Likeness

/-- Two environments that fold scalars that are like into such, with the same settings for
    hierarchies and the same language of patterns. -/
structure Env.Like (L : Likeness) (env env' : Env) : Prop where
  fold : ∀ {a b}, L.scalar a b →
    L.scalar (if env.config.foldConstants then a.fold else a)
      (if env'.config.foldConstants then b.fold else b)
  policy : env.config.nonNullPolicy = env'.config.nonNullPolicy
  keepComponent : env.config.keepRuleComponent = env'.config.keepRuleComponent
  patterns : env.config.patterns = env'.config.patterns

namespace Likeness.Congruent

variable {L : Likeness} (hL : L.Congruent) {env env' : Env} {p q : Plan}

theorem fold (he : env.Like L env') {c d : Compiled} (h : L.Both c d) :
    L.Both (env.fold c) (env'.fold d) := by
  cases h with
  | scalar h => exact .scalar (he.fold h)
  | dataset h => exact .dataset h

include hL

theorem known? {as bs : List Compiled} (h : List.Forall₂ L.Both as bs) :
    as.map Compile.known? = bs.map Compile.known? := by
  refine map_like h fun a b hab => ?_
  cases hab with
  | scalar h => exact hL.known h
  | dataset _ => rfl

theorem widenBranch (type : Option ScalarType) {a b : Scalar} (h : L.scalar a b) :
    L.scalar (Compile.widenBranch type a) (Compile.widenBranch type b) := by
  unfold Compile.widenBranch
  rw [hL.type h]
  split
  · exact hL.apply _ (.cons h .nil)
  · exact h

theorem conditionalOf (he : env.Like L env') {t t' a a' b b' : Scalar} (ht : L.scalar t t')
    (ha : L.scalar a a') (hb : L.scalar b b') :
    Paired L.Both (env.conditional t a b) (env'.conditional t' a' b') := by
  unfold Env.conditional
  rw [hL.type ht, hL.type ha, hL.type hb]
  refine .bind_same _ fun _ => .bind_same _ fun type => .ok (fold he (.scalar ?_))
  exact hL.conditional type ht (hL.widenBranch type ha) (hL.widenBranch type hb)

section
variable {as bs : List Compiled} (h : List.Forall₂ L.Both as bs)
include h

omit hL in
theorem plans : List.Forall₂ L.plan (Compile.plans as) (Compile.plans bs) := by
  refine filterMap_like h fun a b hab => ?_
  cases hab with
  | scalar _ => exact .none
  | dataset h => exact .some h

omit hL in
theorem scalars : List.Forall₂ L.scalar (Compile.scalars as) (Compile.scalars bs) := by
  refine filterMap_like h fun a b hab => ?_
  cases hab with
  | scalar h => exact .some h
  | dataset _ => exact .none

theorem operandTypes (measure : String) :
    as.map (operandType measure) = bs.map (operandType measure) := by
  refine map_like h fun a b hab => ?_
  cases hab with
  | scalar h => exact hL.type h
  | dataset h => simp only [operandType, hL.schema h]

omit hL in
theorem operandSources (measure : String) :
    as.map (operandSource measure) = bs.map (operandSource measure) := by
  refine map_like h fun a b hab => ?_
  cases hab <;> rfl

theorem outputs (build : Builder) (alone : Bool) (measures : List Component) :
    Compile.outputs build as alone measures = Compile.outputs build bs alone measures := by
  induction measures with
  | nil => rfl
  | cons m rest ih =>
    simp only [Compile.outputs, hL.operandTypes h, operandSources h, ih]

omit h in
theorem otherIdentifiers {ps qs : List Plan} (hp : L.plan p q) (h : List.Forall₂ L.plan ps qs) :
    Option.Rel L.plan (otherIdentifiers? p ps) (otherIdentifiers? q qs) := by
  unfold otherIdentifiers?
  exact find?_like h fun a b hab => by rw [hL.schema hp, hL.schema hab]

omit h in
theorem sharedMeasures {ps qs : List Plan} (hp : L.plan p q) (h : List.Forall₂ L.plan ps qs) :
    Compile.sharedMeasures p ps = Compile.sharedMeasures q qs := by
  have hschemas : ps.map Plan.schema = qs.map Plan.schema := map_like h fun a b => hL.schema
  have hall : ∀ g : Schema → Bool, (ps.all fun p => g p.schema) = qs.all fun p => g p.schema := by
    intro g
    have hs := congrArg (List.all · g) hschemas
    simpa [List.all_map, Function.comp_def] using hs
  unfold Compile.sharedMeasures
  rw [hL.schema hp]
  exact List.filter_congr fun m _ => hall fun s => (s.get? m.name).any Component.isMeasure

theorem liftOver (build : Builder) {ps qs : List Plan} (hp : L.plan p q)
    (hps : List.Forall₂ L.plan ps qs) :
    Paired L.Both (Compile.liftOver build as p ps) (Compile.liftOver build bs q qs) := by
  have hother := hL.otherIdentifiers hp hps
  have hshared := hL.sharedMeasures hp (.cons hp hps)
  unfold Compile.liftOver
  rw [hshared, hL.schema hp, hL.name hp]
  generalize otherIdentifiers? p ps = a, otherIdentifiers? q qs = b at hother
  cases hother with
  | some ho =>
    dsimp only
    rw [hL.name ho]
    exact .error _
  | none =>
    dsimp only
    split
    · exact .error _
    · rw [hL.outputs h]
      exact .bind_same _ fun outs => .bind_same _ fun s => .ok (.dataset (hL.map _ s h))

theorem liftOf (build : Builder) :
    Paired L.Both (Compile.lift build as) (Compile.lift build bs) := by
  have hp := plans h
  have hs := scalars h
  unfold Compile.lift
  generalize Compile.plans as = ps, Compile.plans bs = qs at hp
  cases hp with
  | nil =>
    dsimp only
    rw [map_like hs fun a b => hL.type]
    exact .bind_same _ fun op => .ok (.scalar (hL.apply op hs))
  | cons hp hps => exact hL.liftOver h build hp hps

theorem lift (he : env.Like L env') (build : Builder) :
    Paired L.Both (env.lift build as) (env'.lift build bs) :=
  (hL.liftOf h build).bind fun _ _ hab => .ok (fold he hab)

end

theorem binary (he : env.Like L env') (op : BinaryOp) {l l' r r' : Compiled} (hl : L.Both l l')
    (hr : L.Both r r') : Paired L.Both (env.binary op l r) (env'.binary op l' r') := by
  have hlift : Paired L.Both (env.lift (binaryBuilder op) [l, r])
      (env'.lift (binaryBuilder op) [l', r']) := hL.lift (.cons hl (.cons hr .nil)) he _
  unfold Env.binary
  cases hl with
  | dataset hl => cases dominant? op <;> exact hlift
  | scalar hl =>
    cases hr with
    | dataset hr => cases dominant? op <;> exact hlift
    | scalar hr =>
      cases dominant? op with
      | none => exact hlift
      | some dominant =>
        dsimp only
        rw [hL.type hl, hL.type hr]
        exact .bind_same _ fun _ => .ok (fold he (.scalar (hL.shortCircuit dominant hl hr)))

theorem combinePlan (op : SetOp) {ps qs : List Plan} (h : List.Forall₂ L.plan ps qs) :
    Paired L.plan (Compile.combinePlan op ps) (Compile.combinePlan op qs) := by
  unfold Compile.combinePlan
  have hall := h
  cases h with
  | nil => exact .error _
  | @cons p q ps qs hp hps =>
    have hother : Option.Rel L.plan (ps.find? fun d => !p.schema.compatible d.schema)
        (qs.find? fun d => !q.schema.compatible d.schema) :=
      find?_like hps fun a b hab => by rw [hL.schema hp, hL.schema hab]
    dsimp only
    generalize (ps.find? _) = a, (qs.find? _) = b at hother
    cases hother with
    | some ho =>
      dsimp only
      rw [hL.name ho, hL.name hp]
      exact .error _
    | none =>
      rw [hL.schema hp]
      exact .ok (hL.combine op _ hall)

section
variable (h : L.plan p q)
include h

theorem requireComponents (names : List String) :
    Compile.requireComponents p names = Compile.requireComponents q names := by
  unfold Compile.requireComponents
  rw [hL.schema h, hL.name h]

theorem selectPlan (component : String) :
    Paired L.plan (Compile.selectPlan p component) (Compile.selectPlan q component) := by
  unfold Compile.selectPlan
  rw [hL.schema h, hL.name h]
  split
  · exact .error _
  · split
    · exact .error _
    · exact .bind_same _ fun s => .ok (hL.project _ _ s h)

theorem projectPlan (names : List String) (keep : Bool) :
    Paired L.plan (Compile.projectPlan p names keep) (Compile.projectPlan q names keep) := by
  unfold Compile.projectPlan
  rw [hL.requireComponents h, hL.schema h]
  exact .bind_same _ fun _ => .bind_same _ fun s => .ok (hL.project _ _ s h)

theorem renamePlan (pairs : List (String × String)) :
    Paired L.plan (Compile.renamePlan p pairs) (Compile.renamePlan q pairs) := by
  unfold Compile.renamePlan
  rw [hL.requireComponents h, hL.schema h]
  exact .bind_same _ fun _ => .bind_same _ fun s => .ok (hL.rename _ s h)

theorem windowCall (fn : WindowFunction) (component target : String) (extent : Extent) :
    Compile.windowCall fn component target extent p =
      Compile.windowCall fn component target extent q := by
  unfold Compile.windowCall
  rw [hL.requireComponents h, hL.schema h, hL.name h]

theorem windowCalls (fn : WindowFunction) (extent : Extent) (measures : List Component) :
    Compile.windowCalls fn extent p measures = Compile.windowCalls fn extent q measures := by
  induction measures with
  | nil => rfl
  | cons m rest ih => simp only [Compile.windowCalls, hL.windowCall h, ih]

theorem windowPlan (fn : WindowFunction) (extent : Extent) :
    Paired L.plan (Compile.windowPlan fn extent p) (Compile.windowPlan fn extent q) := by
  unfold Compile.windowPlan
  rw [hL.windowCalls h, hL.schema h]
  refine .bind_same _ fun calls => .bind_same _ fun staged => .bind_same _ fun s => ?_
  exact .ok (hL.windowed _ _ s h)

theorem windowItem (name : String) (role : Option Role) (n : Nat) (fn : WindowFunction)
    (component : String) (extent : Extent) :
    Paired L.Item (Compile.windowItem p name role n fn component extent)
      (Compile.windowItem q name role n fn component extent) := by
  unfold Compile.windowItem
  rw [hL.windowCall h, hL.schema h]
  exact .bind_same _ fun call => .ok ⟨⟨rfl, rfl, hL.read _ _⟩, rfl⟩

theorem calculatePlan {as bs : List Calculated} (ha : List.Forall₂ L.Item as bs) :
    Paired L.plan (Compile.calculatePlan p as) (Compile.calculatePlan q bs) := by
  have hcalls : as.filterMap (·.call) = bs.filterMap (·.call) := by
    induction ha with
    | nil => rfl
    | cons h _ ih => simp only [List.filterMap_cons, h.call, ih]
  have hcolumns : List.Forall₂ L.Column (as.map (·.column)) (bs.map (·.column)) :=
    List.forall₂_map_left_iff.2 (List.forall₂_map_right_iff.2 (ha.imp fun _ _ h => h.column))
  have heq : (as.map (·.column)).map (·.column) = (bs.map (·.column)).map (·.column) := by
    refine map_like hcolumns fun a b hab => ?_
    unfold CalcColumn.column Scalar.componentType
    rw [hab.name, hab.role, hL.type hab.expression]
  unfold Compile.calculatePlan
  dsimp only
  rw [hcalls, hL.schema h, heq]
  refine .bind_same _ fun staged => .bind_same _ fun assigned => .bind_same _ fun s => ?_
  exact .ok (hL.calculate _ s h hcolumns)

theorem bindVariables (domain : RulesetDomain) (frame : Frame) (vars : List RuleVariable)
    (given : List String) :
    Compile.bindVariables domain p frame vars given =
      Compile.bindVariables domain q frame vars given := by
  have hone : ∀ v g, bindVariable domain p v g = bindVariable domain q v g := by
    intro v g
    unfold bindVariable
    rw [hL.schema h, hL.name h]
  induction vars generalizing frame given with
  | nil => rfl
  | cons v rest ih => simp only [Compile.bindVariables, hone, ih]

theorem rulesetFrame (rs : DatapointRuleset) (components : List String) :
    Compile.rulesetFrame rs p components = Compile.rulesetFrame rs q components := by
  unfold Compile.rulesetFrame
  rw [hL.bindVariables h]

theorem checkDatapointPlan (frame : Frame) {as bs : List RowRule}
    (ha : List.Forall₂ L.Rule as bs) (mode : OutputMode) :
    Paired L.plan (Compile.checkDatapointPlan p frame as mode)
      (Compile.checkDatapointPlan q frame bs mode) := by
  unfold Compile.checkDatapointPlan
  rw [hL.schema h]
  exact .bind_same _ fun s => .ok (hL.checkDatapoint _ mode s h ha)

omit h in
theorem imbalanceType {p q : Option Plan} (h : Option.Rel L.plan p q) :
    Compile.imbalanceType p = Compile.imbalanceType q := by
  cases h with
  | none => rfl
  | some h => simp only [Compile.imbalanceType, hL.schema h, hL.name h]

theorem checkPlan {a b : Option Plan} (hab : Option.Rel L.plan a b) (type : Option ScalarType)
    {c d l m : Scalar} (hc : L.scalar c d) (hl : L.scalar l m) (invalid : Bool) :
    Paired L.plan (Compile.checkPlan p a type c l invalid)
      (Compile.checkPlan q b type d m invalid) := by
  unfold Compile.checkPlan
  rw [hL.schema h]
  exact .bind_same _ fun s => .ok (hL.check _ s h hab hc hl)

theorem checkHierarchyPlan (he : env.Like L env') (rs : HierarchicalRuleset)
    (given : Option String) (validation : ValidationMode) (input : InputMode)
    (output : OutputMode) :
    Paired L.plan (Compile.checkHierarchyPlan env.config p rs given validation input output)
      (Compile.checkHierarchyPlan env'.config q rs given validation input output) := by
  unfold Compile.checkHierarchyPlan
  rw [hL.schema h, hL.name h, he.policy, he.keepComponent]
  refine .bind_same _ fun component => .bind_same _ fun target => .bind_same _ fun s => ?_
  exact .ok (hL.checkHierarchy _ s h)

end

omit hL in
theorem asScalar (p : Position) {c d : Compiled} (h : L.Both c d) :
    Paired L.scalar (Compile.asScalar p c) (Compile.asScalar p d) := by
  cases h with
  | scalar h => exact .ok h
  | dataset _ => exact .error _

omit hL in
theorem asPlan (p : Position) {c d : Compiled} (h : L.Both c d) :
    Paired L.plan (Compile.asPlan p c) (Compile.asPlan p d) := by
  cases h with
  | scalar _ => exact .error _
  | dataset h => exact .ok h

section
variable {compile compile' : Expr → Result Compiled}

theorem booleanRule (id : String) {e : Expr} (h : Paired L.Both (compile e) (compile' e)) :
    Paired L.scalar (Compile.booleanRule compile id e) (Compile.booleanRule compile' id e) := by
  unfold Compile.booleanRule
  refine h.bind fun c d hcd => (asScalar e.position hcd).bind fun a b hab => ?_
  rw [hL.type hab]
  exact .bind_same _ fun _ => .ok hab

theorem rowRules {rs : List DatapointRule}
    (h : ∀ r ∈ rs, ∀ e ∈ r.expressions, Paired L.Both (compile e) (compile' e)) :
    Paired (List.Forall₂ L.Rule) (Compile.rowRules compile rs) (Compile.rowRules compile' rs) := by
  induction rs with
  | nil => exact .ok .nil
  | cons r rest ih =>
    obtain ⟨hr, hrest⟩ := List.forall_mem_cons.1 h
    simp only [Compile.rowRules]
    have hantecedent : Paired (Option.Rel L.scalar) (antecedent compile r.id r.antecedent)
        (antecedent compile' r.id r.antecedent) := by
      cases ha : r.antecedent with
      | none => exact .ok .none
      | some e =>
        have he := hr e (by simp [DatapointRule.expressions, ha])
        exact (hL.booleanRule r.id he).bind fun _ _ hab => .ok (.some hab)
    have hconsequent := hL.booleanRule r.id (hr r.consequent (by simp [DatapointRule.expressions]))
    refine hantecedent.bind fun a a' ha => hconsequent.bind fun c c' hc => ?_
    exact (ih hrest).bind fun _ _ hrest => .ok (.cons ⟨rfl, ha, hc, rfl, rfl⟩ hrest)

end
end Likeness.Congruent
end Compile
end Tabular
