import Mathlib.Data.List.Find
import Tabular.Proofs.Dependence
import Tabular.Proofs.Lifting.Slot

set_option autoImplicit false

namespace Tabular

mutual

/-- The expression with the names replaced that are looked up where it stands. The names in the
    condition of a filter and in the items of a calculation are looked up among the components of
    the operand, and are kept. -/
def Expr.renamed (σ : String → String) : Expr → Expr
  | .literal p v => .literal p v
  | .name p n => .name p (σ n)
  | .unary p op e => .unary p op (e.renamed σ)
  | .binary p op l r => .binary p op (l.renamed σ) (r.renamed σ)
  | .conditional p t y n => .conditional p (t.renamed σ) (y.renamed σ) (n.renamed σ)
  | .cast p e target => .cast p (e.renamed σ) target
  | .call p f args => .call p f (renamedAll σ args)
  | .member p e set negated => .member p (e.renamed σ) set negated
  | .select p e component => .select p (e.renamed σ) component
  | .filter p e condition => .filter p (e.renamed σ) condition
  | .keep p e names => .keep p (e.renamed σ) names
  | .drop p e names => .drop p (e.renamed σ) names
  | .rename p e pairs => .rename p (e.renamed σ) pairs
  | .calculate p e items => .calculate p (e.renamed σ) items
  | .combine p op es => .combine p op (renamedAll σ es)
  | .window p f e extent => .window p f (e.renamed σ) extent
  | .checkDatapoint p e ruleset components mode =>
    .checkDatapoint p (e.renamed σ) ruleset components mode
  | .check p e code level imbalance invalid =>
    .check p (e.renamed σ) (renamedOption σ code) (renamedOption σ level)
      (renamedOption σ imbalance) invalid
  | .checkHierarchy p e ruleset component validation input output =>
    .checkHierarchy p (e.renamed σ) ruleset component validation input output

def renamedAll (σ : String → String) : List Expr → List Expr
  | [] => []
  | e :: rest => e.renamed σ :: renamedAll σ rest

def renamedOption (σ : String → String) : Option Expr → Option Expr
  | none => none
  | some e => some (e.renamed σ)

end

theorem renamedAll_eq (σ : String → String) (es : List Expr) :
    renamedAll σ es = es.map (·.renamed σ) := by
  induction es with
  | nil => rfl
  | cons e rest ih => rw [renamedAll, ih, List.map_cons]

theorem renamedOption_eq (σ : String → String) (e : Option Expr) :
    renamedOption σ e = e.map (·.renamed σ) := by
  cases e <;> rfl

def RuleVariable.renamed (σ : String → String) (v : RuleVariable) : RuleVariable :=
  ⟨v.source, some (σ v.visible)⟩

def DatapointRuleText.renamed (σ : String → String) (r : DatapointRuleText) : DatapointRuleText :=
  { r with antecedent := r.antecedent.map (·.renamed σ), consequent := r.consequent.renamed σ }

def DatapointRule.renamed (σ : String → String) (r : DatapointRule) : DatapointRule :=
  { r with antecedent := r.antecedent.map (·.renamed σ), consequent := r.consequent.renamed σ }

namespace DatapointRuleset

def visible (rs : DatapointRuleset) : List String := rs.vars.map RuleVariable.visible

def aliasOf (rs : DatapointRuleset) (σ : String → String) (n : String) : String :=
  if n ∈ rs.visible then σ n else n

/-- The ruleset with aliases for the visible names, in the variables and in the rules. -/
def renamed (rs : DatapointRuleset) (σ : String → String) : DatapointRuleset :=
  { rs with vars := rs.vars.map (·.renamed σ), rules := rs.rules.map (·.renamed (rs.aliasOf σ)) }

/-- The aliases are distinct, name no component and do not occur in the rules. -/
structure Fresh (rs : DatapointRuleset) (s : Schema) (σ : String → String) : Prop where
  distinct : ∀ m ∈ rs.visible, ∀ n ∈ rs.visible, σ m = σ n → m = n
  absent : ∀ n ∈ rs.visible, σ n ∉ s.names
  unused : ∀ n ∈ rs.visible, ∀ r ∈ rs.rules, ∀ e ∈ r.expressions, .identifier (σ n) ∉ e.mentions

end DatapointRuleset

namespace Compile

section
variable {σ : String → String} {name : String}

theorem datapointRules_renamed {n : Nat} {seen : List String} {texts : List DatapointRuleText}
    {rules : List DatapointRule} (h : datapointRules name n seen texts = .ok rules) :
    datapointRules name n seen (texts.map (·.renamed σ)) = .ok (rules.map (·.renamed σ)) := by
  induction texts generalizing n seen rules with
  | nil =>
    cases h
    rfl
  | cons text rest ih =>
    obtain ⟨id, hid, h⟩ := ok_of_bind h
    obtain ⟨u, hlevel, h⟩ := ok_of_bind h
    obtain ⟨more, hmore, h⟩ := ok_of_bind h
    cases eq_of_pure_ok h
    rw [List.map_cons, datapointRules]
    change located text.pos (ruleId name seen n text.name) >>= _ = _
    rw [hid]
    change located text.pos (checkLevel name text.level) >>= _ = _
    rw [hlevel]
    change datapointRules name (n + 1) (id :: seen) _ >>= _ = _
    rw [ih hmore]
    rfl

theorem defined_renamed {rs : DatapointRuleset}
    (hσ : ∀ m ∈ rs.visible, ∀ n ∈ rs.visible, σ m = σ n → m = n)
    (h : Binding.Defined (.datapointRuleset rs)) :
    Binding.Defined (.datapointRuleset (rs.renamed σ)) := by
  obtain ⟨p, name, domain, vars, texts, h⟩ := h
  refine ⟨p, name, domain, vars.map (·.renamed σ), texts.map (·.renamed (rs.aliasOf σ)), ?_⟩
  unfold defineDatapoint at h
  split at h
  · cases h
  · rename_i hnone
    obtain ⟨rules, hrules, h⟩ := ok_of_bind h
    cases eq_of_pure_ok h
    have hvisible : (vars.map (·.renamed σ)).map RuleVariable.visible =
        (vars.map RuleVariable.visible).map σ := by
      rw [List.map_map, List.map_map]
      rfl
    have hnodup : ((vars.map RuleVariable.visible).map σ).Nodup :=
      (Schema.firstRepeated_eq_none hnone).1.map_on hσ
    unfold defineDatapoint
    rw [hvisible, Schema.firstRepeated_of_nodup hnodup fun _ _ => List.not_mem_nil]
    dsimp only
    rw [datapointRules_renamed hrules]
    rfl

end

section
variable {σ : String → String} {names : List String}
  (hσ : ∀ m ∈ names, ∀ n ∈ names, σ m = σ n → m = n)

namespace Frame

variable {f : Frame} {n : String}

def renamed (σ : String → String) (f : Frame) : Frame := f.map fun e => (σ e.1, e.2)

theorem get?_isSome_iff : (f.get? n).isSome ↔ n ∈ f.map (·.1) := by
  rw [get?, Option.isSome_map, List.find?_isSome, List.mem_map]
  simp only [beq_iff_eq]

include hσ

theorem get?_renamed (hf : f.map (·.1) ⊆ names) (hn : n ∈ names) :
    (f.renamed σ).get? (σ n) = f.get? n := by
  rw [get?, get?, renamed, List.find?_map, Option.map_map]
  refine congrArg _ (List.find?_congr fun e he => ?_)
  have hname : e.1 ∈ names := hf (List.mem_map_of_mem he)
  rw [Function.comp_apply, Bool.eq_iff_iff, beq_iff_eq, beq_iff_eq]
  exact ⟨hσ _ hname n hn, congrArg σ⟩

theorem renamed_hide (hf : f.map (·.1) ⊆ names) (hn : n ∈ names) :
    renamed σ (f.filter (·.1 != n)) = (f.renamed σ).filter (·.1 != σ n) := by
  rw [renamed, renamed, List.filter_map]
  refine congrArg _ (List.filter_congr fun e he => ?_)
  have hname : e.1 ∈ names := hf (List.mem_map_of_mem he)
  rw [Function.comp_apply, Bool.eq_iff_iff, bne_iff_ne, bne_iff_ne]
  exact not_congr ⟨congrArg σ, hσ _ hname n hn⟩

end Frame

variable {domain : RulesetDomain} {source : Plan} {start inner : Frame} {given : List String}

theorem bindVariable_visible {v : RuleVariable} {component : Option String}
    {entry : String × (String × ScalarType)}
    (h : bindVariable domain source v component = .ok entry) : entry.1 = v.visible := by
  unfold bindVariable at h
  split at h
  · cases h
  · split at h
    · cases h
    · cases h
      rfl

theorem bindVariable_renamed {v : RuleVariable} {component : Option String}
    {entry : String × (String × ScalarType)}
    (h : bindVariable domain source v component = .ok entry)
    (hv : σ v.visible ∉ source.schema.names) :
    bindVariable domain source (v.renamed σ) component = .ok (σ v.visible, entry.2) := by
  have hfree : source.schema.contains (σ v.visible) = false :=
    Bool.eq_false_iff.2 fun hc => hv (Schema.contains_iff.1 hc)
  have hsame : variableComponent? domain source.schema (v.renamed σ) component =
      variableComponent? domain source.schema v component := by
    cases component <;> rfl
  have hvisible : (v.renamed σ).visible = σ v.visible := rfl
  unfold bindVariable at h
  rw [bindVariable, hsame, hvisible]
  cases hc : variableComponent? domain source.schema v component with
  | none =>
    rw [hc] at h
    cases h
  | some c =>
    rw [hc] at h
    dsimp only at h ⊢
    rw [hfree, Bool.and_false, if_neg Bool.false_ne_true]
    split at h
    · cases h
    · cases h
      rfl

theorem bindVariables_names {vars : List RuleVariable}
    (h : bindVariables domain source start vars given = .ok inner) (n : String) :
    n ∈ inner.map (·.1) ↔ n ∈ start.map (·.1) ∨ n ∈ vars.map RuleVariable.visible := by
  induction vars generalizing start given with
  | nil =>
    cases h
    simp
  | cons v rest ih =>
    obtain ⟨entry, he, h⟩ := ok_of_bind h
    have hhide : n ∈ (start.filter (·.1 != entry.1)).map (·.1) ↔
        n ∈ start.map (·.1) ∧ n ≠ entry.1 := by
      simp only [List.mem_map, List.mem_filter, bne_iff_ne]
      constructor
      · rintro ⟨e, ⟨he, hne⟩, rfl⟩
        exact ⟨⟨e, he, rfl⟩, hne⟩
      · rintro ⟨⟨e, he, rfl⟩, hne⟩
        exact ⟨e, ⟨he, hne⟩, rfl⟩
    rw [ih h, List.map_cons, List.map_cons, List.mem_cons, List.mem_cons, hhide,
      bindVariable_visible he]
    tauto

include hσ

theorem bindVariables_renamed {vars : List RuleVariable}
    (h : bindVariables domain source start vars given = .ok inner)
    (hstart : start.map (·.1) ⊆ names) (hvars : vars.map RuleVariable.visible ⊆ names)
    (habsent : ∀ n ∈ names, σ n ∉ source.schema.names) :
    bindVariables domain source (start.renamed σ) (vars.map (·.renamed σ)) given =
      .ok (inner.renamed σ) := by
  induction vars generalizing start given with
  | nil =>
    cases h
    rfl
  | cons v rest ih =>
    obtain ⟨entry, he, h⟩ := ok_of_bind h
    obtain ⟨hv, hrest⟩ := List.cons_subset.1 hvars
    have hname : entry.1 = v.visible := bindVariable_visible he
    have hone := bindVariable_renamed he (habsent _ hv)
    rw [← hname] at hv hone
    rw [List.map_cons, bindVariables, hone]
    change bindVariables domain source (_ :: (start.renamed σ).filter (·.1 != σ entry.1)) _ _ = _
    rw [← Frame.renamed_hide hσ hstart hv]
    refine ih h (List.cons_subset.2 ⟨hv, ?_⟩) hrest
    exact List.Subset.trans (List.map_subset _ (List.filter_subset_self _)) hstart

end

section
variable {σ : String → String} {rs : DatapointRuleset} {source : Plan} {inner : Frame}
  {components : List String}

theorem rulesetFrame_names (h : rulesetFrame rs source components = .ok inner) (n : String) :
    n ∈ inner.map (·.1) ↔ n ∈ rs.visible := by
  unfold rulesetFrame at h
  split at h
  · cases h
  · rw [bindVariables_names h n, List.map_nil, DatapointRuleset.visible]
    simp only [List.not_mem_nil, false_or]

theorem rulesetFrame_renamed (h : rulesetFrame rs source components = .ok inner)
    (hfresh : rs.Fresh source.schema σ) :
    rulesetFrame (rs.renamed σ) source components = .ok (inner.renamed σ) := by
  have hcount : (rs.renamed σ).vars.length = rs.vars.length := List.length_map ..
  unfold rulesetFrame at h ⊢
  rw [hcount]
  split at h
  · cases h
  · rename_i hgiven
    rw [if_neg hgiven]
    exact bindVariables_renamed hfresh.distinct h (List.nil_subset _) (List.Subset.refl _)
      hfresh.absent

theorem checkDatapointPlan_renamed (source : Plan) (f : Frame) (rules : List RowRule)
    (mode : OutputMode) :
    checkDatapointPlan source (f.renamed σ) rules mode = checkDatapointPlan source f rules mode := by
  have hmeasures : declaredMeasures source.schema (f.renamed σ) =
      declaredMeasures source.schema f := by
    simp only [declaredMeasures, Frame.renamed, List.any_map]
    rfl
  rw [checkDatapointPlan, checkDatapointPlan, hmeasures]

/-- The alias of a name stands in the renamed frame for what the name stands for. A name that is
    not bound there is looked up in the context as before. -/
theorem name_aliasOf (env : Env) {n : String} (h : rulesetFrame rs source components = .ok inner)
    (hfresh : rs.Fresh source.schema σ) (hn : ∀ m ∈ rs.visible, σ m ≠ n) :
    env.name (inner.renamed σ) (rs.aliasOf σ n) = env.name inner n := by
  have hnames := rulesetFrame_names h
  by_cases hv : n ∈ rs.visible
  · obtain ⟨x, hx⟩ := Option.isSome_iff_exists.1 (Frame.get?_isSome_iff.2 ((hnames n).2 hv))
    have hget := Frame.get?_renamed hfresh.distinct (fun m hm => (hnames m).1 hm) hv
    rw [Env.name, Env.name, DatapointRuleset.aliasOf, if_pos hv, hget, hx]
  · have hnone : inner.get? n = none := by
      rw [← Option.not_isSome_iff_eq_none, Frame.get?_isSome_iff, hnames]
      exact hv
    have hfree : (inner.renamed σ).get? n = none := by
      rw [← Option.not_isSome_iff_eq_none, Frame.get?_isSome_iff, Frame.renamed, List.map_map]
      intro hm
      obtain ⟨e, he, rfl⟩ := List.mem_map.1 hm
      exact hn e.1 ((hnames _).1 (List.mem_map_of_mem he)) rfl
    rw [Env.name, Env.name, DatapointRuleset.aliasOf, if_neg hv, hnone, hfree]

end

theorem OptionalScalar.map {type : ScalarType} {arg : Option Expr} {s : Scalar}
    (h : OptionalScalar type arg s) (g : Expr → Expr) : OptionalScalar type (arg.map g) s :=
  ⟨fun hnone => h.1 (Option.map_eq_none_iff.1 hnone),
    fun hsome => h.2 (by rwa [Option.isSome_map] at hsome)⟩

/-- Names can be replaced in an expression where the new ones stand for the same: one case for each
    node. What is compiled among the components of an operand is not touched. -/
theorem Compiles.renamed {env : Env} {σ : String → String} {f f' : Frame} {e : Expr} {c : Compiled}
    (h : Compiles env f e c)
    (hf : ∀ n, .identifier n ∈ e.mentions → env.name f' (σ n) = env.name f n) :
    Compiles env f' (e.renamed σ) c := by
  induction h with
  | literal => exact .literal
  | name h => exact .name ((hf _ (List.mem_singleton.2 rfl)).trans h)
  | unary _ h ih => exact .unary (ih hf) h
  | binary _ _ h ihl ihr =>
    simp only [Expr.mentions, List.mem_append] at hf
    exact .binary (ihl fun n hn => hf n (.inl hn)) (ihr fun n hn => hf n (.inr hn)) h
  | conditional _ _ _ h iht ihy ihn =>
    simp only [Expr.mentions, List.mem_append] at hf
    exact .conditional (iht fun n hn => hf n (.inl (.inl hn)))
      (ihy fun n hn => hf n (.inl (.inr hn))) (ihn fun n hn => hf n (.inr hn)) h
  | cast _ h ih => exact .cast (ih hf) h
  | call hlen _ h ih =>
    rw [Expr.renamed, renamedAll_eq]
    refine .call (by rw [List.length_map, hlen]) (fun e a hz => ?_) h
    rw [List.zip_map_left] at hz
    obtain ⟨⟨i, b⟩, hi, heq⟩ := List.mem_map.1 hz
    cases heq
    exact ih i b hi fun n hn => hf n (mem_mentionsAll.2 ⟨i, (List.of_mem_zip hi).1, hn⟩)
  | member _ h ih => exact .member (ih hf) h
  | select _ h ih => exact .select (ih hf) h
  | filter _ hc ht ih =>
    simp only [Expr.mentions, List.mem_append] at hf
    exact .filter (ih fun n hn => hf n (.inl hn)) hc ht
  | keep _ h ih => exact .keep (ih hf) h
  | drop _ h ih => exact .drop (ih hf) h
  | rename _ h ih => exact .rename (ih hf) h
  | calculate _ hitems hbodies h ih =>
    simp only [Expr.mentions, List.mem_append] at hf
    exact .calculate (ih fun n hn => hf n (.inl hn)) hitems hbodies h
  | combine hcount hlen _ h ih =>
    rw [Expr.renamed, renamedAll_eq]
    refine .combine (by rw [List.length_map, hcount]) (by rw [List.length_map, hlen]) ?_ h
    intro e q hz
    rw [List.zip_map_left] at hz
    obtain ⟨⟨i, b⟩, hi, heq⟩ := List.mem_map.1 hz
    cases heq
    exact ih i b hi fun n hn => hf n (mem_mentionsAll.2 ⟨i, (List.of_mem_zip hi).1, hn⟩)
  | window _ h ih => exact .window (ih hf) h
  | checkDatapoint _ hrs hframe hrules hbodies h ih =>
    simp only [Expr.mentions, List.mem_cons] at hf
    exact .checkDatapoint (ih fun n hn => hf n (.inr hn)) hrs hframe hrules hbodies h
  | check _ hmeasure hsome _ htype _ hc _ hl h ih iho ihc ihl =>
    simp only [Expr.mentions, List.mem_append] at hf
    rw [Expr.renamed, renamedOption_eq, renamedOption_eq, renamedOption_eq]
    refine .check (ih fun n hn => hf n (.inl (.inl (.inl hn)))) hmeasure
      (by rw [Option.isSome_map, hsome]) (fun i q hi hq => ?_) htype (fun i hi => ?_)
      (hc.map _) (fun i hi => ?_) (hl.map _) h
    · obtain ⟨j, rfl, rfl⟩ := Option.map_eq_some_iff.1 hi
      exact iho j q rfl hq fun n hn => hf n (.inl (.inl (.inr hn)))
    · obtain ⟨j, rfl, rfl⟩ := Option.map_eq_some_iff.1 hi
      exact ihc j rfl fun n hn => hf n (.inl (.inr hn))
    · obtain ⟨j, rfl, rfl⟩ := Option.map_eq_some_iff.1 hi
      exact ihl j rfl fun n hn => hf n (.inr hn)
  | checkHierarchy _ hrs h ih =>
    simp only [Expr.mentions, List.mem_cons] at hf
    exact .checkHierarchy (ih fun n hn => hf n (.inr hn)) hrs h

theorem Rules.renamed {rs : List DatapointRule} {bodies : List (Expr × Scalar)}
    {rules : List RowRule} (h : Rules rs bodies rules) (σ : String → String) :
    Rules (rs.map (·.renamed σ)) (bodies.map fun b => (b.1.renamed σ, b.2)) rules := by
  induction h with
  | nil => exact .nil
  | always hs _ ih => exact .always hs ih
  | guarded ht hs _ ih => exact .guarded ht hs ih

theorem Rules.expression {rs : List DatapointRule} {bodies : List (Expr × Scalar)}
    {rules : List RowRule} (h : Rules rs bodies rules) :
    ∀ b ∈ bodies, ∃ r ∈ rs, b.1 ∈ r.expressions := by
  induction h with
  | nil => exact fun _ hb => absurd hb List.not_mem_nil
  | always _ _ ih =>
    refine List.forall_mem_cons.2 ⟨⟨_, List.mem_cons_self .., List.mem_singleton.2 rfl⟩, ?_⟩
    intro b hb
    obtain ⟨r, hr, he⟩ := ih b hb
    exact ⟨r, List.mem_cons_of_mem _ hr, he⟩
  | guarded _ _ _ ih =>
    refine List.forall_mem_cons.2 ⟨⟨_, List.mem_cons_self .., List.mem_cons_self ..⟩, ?_⟩
    refine List.forall_mem_cons.2 ⟨⟨_, List.mem_cons_self .., ?_⟩, fun b hb => ?_⟩
    · exact List.mem_cons_of_mem _ (List.mem_singleton.2 rfl)
    · obtain ⟨r, hr, he⟩ := ih b hb
      exact ⟨r, List.mem_cons_of_mem _ hr, he⟩

section
variable {c c' : Context} {config : Config} {σ : String → String} {rs : DatapointRuleset}
  {source : Plan} {inner : Frame} {components : List String} {bodies : List (Expr × Scalar)}
  {rules : List RowRule}

theorem compile_checkDatapoint {name : String} {e : Expr}
    (he : Compiles ⟨c, config⟩ [] e (.dataset source))
    (hrs : c.get? name = some (.datapointRuleset rs))
    (hframe : rulesetFrame rs source components = .ok inner) (hrules : Rules rs.rules bodies rules)
    (hbodies : ∀ i s, (i, s) ∈ bodies → Compiles ⟨c, config⟩ inner i (.scalar s))
    (p : Position) (mode : OutputMode) :
    compile ⟨c, config⟩ (.checkDatapoint p e name components mode) =
      located p (checkDatapointPlan source inner rules mode) >>= fun plan => pure (.dataset plan) := by
  have hsource := (unbounded_eq _ _).symm.trans he.unbounded_ok
  have hbound : Env.datapointRuleset ⟨c, config⟩ name = .ok rs := by
    rw [Env.datapointRuleset, hrs]
  have hcompiled := rowRules_of_ok hrules fun i s hi => (hbodies i s hi).unbounded_ok
  rw [compile_eq_unbounded, unbounded_eq, expr, hsource]
  change located p (Env.datapointRuleset ⟨c, config⟩ name) >>= _ = _
  rw [hbound]
  change located p (rulesetFrame rs source components) >>= _ = _
  rw [hframe]
  change rowRules (unbounded ⟨c, config⟩ inner) rs.rules >>= _ = _
  rw [hcompiled]
  rfl

theorem compiles_renamed (hframe : rulesetFrame rs source components = .ok inner)
    (hfresh : rs.Fresh source.schema σ) (hrules : Rules rs.rules bodies rules)
    (hbodies : ∀ i s, (i, s) ∈ bodies → Compiles ⟨c, config⟩ inner i (.scalar s))
    (hnames : ∀ r ∈ rs.rules, ∀ i ∈ r.expressions, ∀ n, .identifier n ∈ i.mentions →
      n ∉ rs.visible → c.SameOutline c' n) {i : Expr} {s : Scalar} (hi : (i, s) ∈ bodies) :
    Compiles ⟨c', config⟩ (inner.renamed σ) (i.renamed (rs.aliasOf σ)) (.scalar s) := by
  obtain ⟨r, hr, hir⟩ := hrules.expression _ hi
  have hmoved : Compiles ⟨c', config⟩ inner i (.scalar s) := by
    refine (hbodies i s hi).scalar_of_names rfl fun n hn => ?_
    by_cases hv : n ∈ rs.visible
    · -- A variable hides what the contexts bind to its name.
      have hsome := Frame.get?_isSome_iff.2 ((rulesetFrame_names hframe n).2 hv)
      obtain ⟨x, hx⟩ := Option.isSome_iff_exists.1 hsome
      rw [Env.name, Env.name, hx]
    · exact name_of_sameOutline (hnames r hr i hir n hn hv) inner
  refine hmoved.renamed fun n hn => name_aliasOf _ hframe hfresh fun m hm heq => ?_
  exact hfresh.unused m hm r hr i hir (heq ▸ hn)

theorem compile_checkDatapoint_congr {name other : String} {e : Expr}
    (he : Compiles ⟨c, config⟩ [] e (.dataset source))
    (he' : Compiles ⟨c', config⟩ [] e (.dataset source))
    (hrs : c.get? name = some (.datapointRuleset rs))
    (hother : c'.get? other = some (.datapointRuleset (rs.renamed σ)))
    (hframe : rulesetFrame rs source components = .ok inner)
    (hfresh : rs.Fresh source.schema σ) (hrules : Rules rs.rules bodies rules)
    (hbodies : ∀ i s, (i, s) ∈ bodies → Compiles ⟨c, config⟩ inner i (.scalar s))
    (hnames : ∀ r ∈ rs.rules, ∀ i ∈ r.expressions, ∀ n, .identifier n ∈ i.mentions →
      n ∉ rs.visible → c.SameOutline c' n) (p : Position) (mode : OutputMode) :
    compile ⟨c', config⟩ (.checkDatapoint p e other components mode) =
      compile ⟨c, config⟩ (.checkDatapoint p e name components mode) := by
  have hframe' := rulesetFrame_renamed hframe hfresh
  have hbodies' : ∀ i s, (i, s) ∈ bodies.map (fun b => (b.1.renamed (rs.aliasOf σ), b.2)) →
      Compiles ⟨c', config⟩ (inner.renamed σ) i (.scalar s) := by
    intro i s hi
    obtain ⟨⟨j, t⟩, hj, heq⟩ := List.mem_map.1 hi
    cases heq
    exact compiles_renamed hframe hfresh hrules hbodies hnames hj
  rw [compile_checkDatapoint he hrs hframe hrules hbodies,
    compile_checkDatapoint he' hother hframe' (hrules.renamed _) hbodies',
    checkDatapointPlan_renamed]

/-- Where a check against a ruleset compiles, the check against the ruleset with fresh aliases for
    its variables compiles to the same, and resolves to the same in every output mode. The ruleset
    with aliases can be defined if the ruleset can. It is bound beside the ruleset or in its place,
    in a context that agrees with the other on what else the dataset and the rules need. -/
theorem resolve_checkDatapoint_renamed {name other : String} {e : Expr} {p : Position}
    {mode : OutputMode} {a : Compiled} (hrs : c.get? name = some (.datapointRuleset rs))
    (hsource : compile ⟨c, config⟩ e = .ok (.dataset source))
    (h : compile ⟨c, config⟩ (.checkDatapoint p e name components mode) = .ok a)
    (hfresh : rs.Fresh source.schema σ)
    (hother : c'.get? other = some (.datapointRuleset (rs.renamed σ)))
    (hdataset : ∀ m, Reaches c e m → c.get? m.name = c'.get? m.name)
    (hnames : ∀ r ∈ rs.rules, ∀ i ∈ r.expressions, ∀ n, .identifier n ∈ i.mentions →
      n ∉ rs.visible → c.get? n = c'.get? n) :
    (Binding.Defined (.datapointRuleset rs) → Binding.Defined (.datapointRuleset (rs.renamed σ))) ∧
      compile ⟨c', config⟩ (.checkDatapoint p e other components mode) = .ok a ∧
      ∀ mode', compile ⟨c', config⟩ (.checkDatapoint p e other components mode') =
          compile ⟨c, config⟩ (.checkDatapoint p e name components mode') ∧
        ∀ today, resolve config c' c' today (.checkDatapoint p e other components mode') =
          resolve config c c today (.checkDatapoint p e name components mode') := by
  have hsource' : compile ⟨c', config⟩ e = .ok (.dataset source) := by
    rw [← hsource]
    exact (compile_congr fun m hm => congrArg (Option.map Binding.outline) (hdataset m hm)).symm
  cases compile_ok_iff.1 h with
  | @checkDatapoint _ _ _ _ _ _ source' _ rs' inner bodies rules he hrs' hframe hrules hbodies =>
    have heq := hsource.symm.trans (compile_ok_iff.2 he)
    cases heq
    have heq := hrs.symm.trans (datapointRuleset_ok hrs')
    cases heq
    have hsame := compile_checkDatapoint_congr he (compile_ok_iff.1 hsource') hrs hother hframe
      hfresh hrules hbodies (fun r hr i hi n hn hv =>
        congrArg (Option.map Binding.outline) (hnames r hr i hi n hn hv)) p
    refine ⟨defined_renamed hfresh.distinct, (hsame mode).trans h, fun mode' =>
      ⟨hsame mode', fun today => ?_⟩⟩
    refine resolve_congr (hsame mode') fun x hx => ?_
    rw [compile_checkDatapoint he hrs hframe hrules hbodies] at hx
    obtain ⟨plan, hchecked, hx⟩ := ok_of_bind hx
    cases eq_of_pure_ok hx
    have hoperand : SameIn c c' today (.dataset source) :=
      he.sameIn rfl fun m hm => hdataset m (.here hm)
    exact sameIn_checkDatapoint hoperand (he.agrees today) hframe hrules
      (fun b hb => (hbodies b.1 b.2 hb).reads) (located_ok hchecked)

end

def capped : DatapointRuleset where
  name := "capped"
  domain := .components
  vars := [⟨"k", none⟩, ⟨"m", some "amount"⟩]
  rules := [⟨"capped_1", some (.binary {} (.compare .gt) (.name {} "k") (.literal {} (.integer 1))),
    .binary {} (.compare .le) (.name {} "amount") (.name {} "limit"), some "high", none⟩]

def capping (rs : DatapointRuleset) : Context := limited.set "capped" (.datapointRuleset rs)

def cappedCheck (mode : OutputMode) : Expr := .checkDatapoint {} (.name {} "D") "capped" [] mode

def keyed (n : String) : String := if n = "k" then "key" else "value"

theorem capping_get? {n : String} (h : n ≠ "capped") (rs rs' : DatapointRuleset) :
    (capping rs).get? n = (capping rs').get? n := by
  rw [capping, capping, Context.get?_set_of_ne _ _ h, Context.get?_set_of_ne _ _ h]

set_option maxRecDepth 4000 in
theorem resolve_checkDatapoint_renamed_capped :
    (∃ d, resolve {} (capping capped) (capping capped) .epoch (cappedCheck .all) =
        .ok (.dataset d) ∧
      d.rows = [[.integer 1, .string "capped_1", .integer 5, .boolean true, .null, .null],
        [.integer 2, .string "capped_1", .integer 7, .boolean false, .string "high", .null]]) ∧
    ∀ mode today,
      resolve {} (capping (capped.renamed keyed)) (capping (capped.renamed keyed)) today
          (cappedCheck mode) =
        resolve {} (capping capped) (capping capped) today (cappedCheck mode) := by
  refine ⟨⟨_, rfl, rfl⟩, fun mode today => ?_⟩
  have hcompile : ∃ a, compile ⟨capping capped, {}⟩ (cappedCheck .all) = .ok a := ⟨_, rfl⟩
  obtain ⟨a, ha⟩ := hcompile
  have hfresh : capped.Fresh tally.schema keyed := ⟨by decide, by decide, by decide⟩
  have hfree : ∀ r ∈ capped.rules, ∀ i ∈ r.expressions, ∀ m ∈ i.mentions, m.name ≠ "capped" := by
    decide
  have hdataset : ∀ m, Reaches (capping capped) (.name {} "D") m → m.name = "D" := by
    intro m hm
    have hmem : m ∈ [Mention.identifier "D"] :=
      hm.mem (fun n rs hn => by cases List.mem_singleton.1 hn) (List.Subset.refl _)
    rw [List.mem_singleton.1 hmem]
    rfl
  refine ((resolve_checkDatapoint_renamed rfl rfl ha hfresh rfl (fun m hm => ?_)
    fun r hr i hi n hn _ => capping_get? (hfree r hr i hi _ hn) _ _).2.2 mode).2 today
  rw [hdataset m hm]
  exact capping_get? (by decide) _ _

set_option maxRecDepth 4000 in
/-- An alias that occurs in the rules captures the name: the amount is compared with itself, and no
    row is reported. -/
example :
    ∃ d, resolve {} (capping (capped.renamed fun n => if n = "k" then "key" else "limit"))
        (capping (capped.renamed fun n => if n = "k" then "key" else "limit")) .epoch
        (cappedCheck .invalid) = .ok (.dataset d) ∧ d.rows = [] :=
  ⟨_, rfl, rfl⟩

end Compile
end Tabular
