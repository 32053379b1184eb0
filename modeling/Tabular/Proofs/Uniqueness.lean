import Tabular.Proofs.Distinct
import Tabular.Session

set_option autoImplicit false

/-!
# Distinct keys in a session

Statements keep the datasets of a context distinct, whether they succeed or fail. The rulesets of
the context matter too, because reports are told apart by the ids of rules; those that statements
define have distinct ids.
-/
namespace Tabular

namespace Compile

theorem ruleId_ok {ruleset id : String} {seen : List String} {n : Nat} {name : Option String}
    (h : ruleId ruleset seen n name = .ok id) : id ∉ seen := by
  unfold ruleId at h
  dsimp only at h
  split at h
  · cases h
  · rename_i hc
    cases h
    simpa using hc

theorem nodup_cons_of_seen {id : String} {ids seen : List String} (hid : id ∉ seen)
    (h : ids.Nodup ∧ ∀ i ∈ ids, i ∉ id :: seen) :
    (id :: ids).Nodup ∧ ∀ i ∈ id :: ids, i ∉ seen := by
  obtain ⟨hn, hs⟩ := h
  refine ⟨List.nodup_cons.2 ⟨fun hm => hs id hm (List.mem_cons_self ..), hn⟩, ?_⟩
  exact List.forall_mem_cons.2 ⟨hid, fun i hi hm => hs i hi (List.mem_cons_of_mem _ hm)⟩

theorem datapointRules_ids {ruleset : String} {n : Nat} {seen : List String}
    {texts : List DatapointRuleText} {rules : List DatapointRule}
    (h : datapointRules ruleset n seen texts = .ok rules) :
    (rules.map (·.id)).Nodup ∧ ∀ i ∈ rules.map (·.id), i ∉ seen := by
  induction texts generalizing n seen rules with
  | nil =>
    cases h
    exact ⟨List.nodup_nil, fun _ hi => absurd hi List.not_mem_nil⟩
  | cons text rest ih =>
    obtain ⟨id, hid, h⟩ := ok_of_bind h
    obtain ⟨_, _, h⟩ := ok_of_bind h
    obtain ⟨more, hm, h⟩ := ok_of_bind h
    cases eq_of_pure_ok h
    exact nodup_cons_of_seen (ruleId_ok (located_ok hid)) (ih hm)

theorem hierarchyRules_ids {ruleset : String} {n : Nat} {seen : List String}
    {texts : List HierarchyRuleText} {rules : List HierarchyRule}
    (h : hierarchyRules ruleset n seen texts = .ok rules) :
    (rules.map (·.id)).Nodup ∧ ∀ i ∈ rules.map (·.id), i ∉ seen := by
  induction texts generalizing n seen rules with
  | nil =>
    cases h
    exact ⟨List.nodup_nil, fun _ hi => absurd hi List.not_mem_nil⟩
  | cons text rest ih =>
    obtain ⟨_, _, h⟩ := ok_of_bind h
    obtain ⟨id, hid, h⟩ := ok_of_bind h
    obtain ⟨_, _, h⟩ := ok_of_bind h
    obtain ⟨more, hm, h⟩ := ok_of_bind h
    cases eq_of_pure_ok h
    exact nodup_cons_of_seen (ruleId_ok (located_ok hid)) (ih hm)

theorem Rules.ids {rs : List DatapointRule} {bodies : List (Expr × Scalar)} {rules : List RowRule}
    (h : Rules rs bodies rules) : rules.map (·.id) = rs.map (·.id) := by
  induction h with
  | nil => rfl
  | always _ _ ih => rw [List.map_cons, List.map_cons, ih]
  | guarded _ _ _ ih => rw [List.map_cons, List.map_cons, ih]

end Compile

/-- A ruleset comes from a statement that defines it. -/
def Binding.Defined : Binding → Prop
  | .scalar _ _ => True
  | .dataset _ => True
  | .datapointRuleset rs =>
    ∃ p name domain vars rules, Compile.defineDatapoint p name domain vars rules = .ok rs
  | .hierarchicalRuleset rs =>
    ∃ name domain codes rules, Compile.defineHierarchy name domain codes rules = .ok rs

def Context.Distinct (c : Context) : Prop := ∀ n d, c.get? n = some (.dataset d) → d.Distinct

def Context.Defined (c : Context) : Prop := ∀ n b, c.get? n = some b → b.Defined

/-- The rules of a ruleset have distinct ids. -/
def Binding.IdsDistinct : Binding → Prop
  | .scalar _ _ => True
  | .dataset _ => True
  | .datapointRuleset rs => (rs.rules.map (·.id)).Nodup
  | .hierarchicalRuleset rs => (rs.rules.map (·.id)).Nodup

def Context.IdsDistinct (c : Context) : Prop := ∀ n b, c.get? n = some b → b.IdsDistinct

theorem Binding.Defined.idsDistinct {b : Binding} (h : b.Defined) : b.IdsDistinct := by
  cases b with
  | scalar _ _ => trivial
  | dataset _ => trivial
  | datapointRuleset rs =>
    obtain ⟨p, name, domain, vars, rules, h⟩ := h
    unfold Compile.defineDatapoint at h
    split at h
    · cases h
    · obtain ⟨made, hm, h⟩ := ok_of_bind h
      cases eq_of_pure_ok h
      exact (Compile.datapointRules_ids hm).1
  | hierarchicalRuleset rs =>
    obtain ⟨name, domain, codes, rules, h⟩ := h
    obtain ⟨made, hm, h⟩ := ok_of_bind h
    cases eq_of_pure_ok h
    exact (Compile.hierarchyRules_ids hm).1

theorem Context.Defined.idsDistinct {c : Context} (h : c.Defined) : c.IdsDistinct :=
  fun n b hn => (h n b hn).idsDistinct

def Compiled.Distinct (c : Context) (today : Date) : Compiled → Prop
  | .scalar _ => True
  | .dataset p => ∀ d, p.eval c today = .ok d → d.Distinct

theorem Compiled.evalAll_leading {c : Context} {today : Date} {operands : List Compiled}
    {values : List Operand} (h : Compiled.evalAll c today operands = .ok values) {first : Plan}
    {rest : List Plan} (hp : Compile.plans operands = first :: rest) :
    Compiled.dataset first ∈ operands ∧
      ∃ d, first.eval c today = .ok d ∧ values.findSome? Operand.dataset? = some d := by
  induction operands generalizing values with
  | nil => cases hp
  | cons a operands ih =>
    rw [Compiled.evalAll] at h
    obtain ⟨o, ho, h⟩ := ok_of_bind h
    obtain ⟨os, hos, h⟩ := ok_of_bind h
    cases eq_of_pure_ok h
    cases a with
    | scalar e =>
      rw [Compiled.eval] at ho
      obtain ⟨v, _, ho⟩ := ok_of_bind ho
      cases eq_of_pure_ok ho
      obtain ⟨hm, d, hd, hf⟩ := ih hos hp
      exact ⟨List.mem_cons_of_mem _ hm, d, hd, hf⟩
    | dataset p =>
      rw [Compiled.eval] at ho
      obtain ⟨d, hd, ho⟩ := ok_of_bind ho
      cases eq_of_pure_ok ho
      cases hp
      exact ⟨List.mem_cons_self .., d, hd, rfl⟩

namespace Compile

variable {env : Env} {today : Date}

theorem distinct_fold (e : Scalar) : (env.fold (.scalar e)).Distinct env.context today := trivial

theorem distinct_name (hd : env.context.Distinct) {f : Frame} {n : String} {c : Compiled}
    (h : env.name f n = .ok c) : c.Distinct env.context today := by
  rcases name_ok h with ⟨_, _, _, rfl⟩ | ⟨_, _, _, rfl⟩ | ⟨d, hb, rfl⟩
  · trivial
  · trivial
  · intro r hr
    rw [Plan.eval_named hb] at hr
    cases hr
    exact hd n d hb

theorem distinct_lift {build : Builder} {operands : List Compiled} {c : Compiled}
    (ha : ∀ a ∈ operands, a.Agrees env.context today)
    (hd : ∀ a ∈ operands, a.Distinct env.context today) (h : env.lift build operands = .ok c) :
    c.Distinct env.context today := by
  rcases lift_ok h with ⟨_, op, _, rfl⟩ | ⟨first, rest, hp, h⟩
  · exact distinct_fold _
  · obtain ⟨_, outs, s, _, _, rfl⟩ := liftOver_ok h
    intro r hr
    rw [Plan.eval] at hr
    obtain ⟨values, hv, hr⟩ := ok_of_bind hr
    obtain ⟨hm, d, he, hf⟩ := Compiled.evalAll_leading hv hp
    exact MeasureMap.distinct_evaluate hf (by rw [ha _ hm d he]) (hd _ hm d he) hr

theorem distinct_binary {op : BinaryOp} {l r c : Compiled}
    (ha : ∀ a ∈ [l, r], a.Agrees env.context today)
    (hd : ∀ a ∈ [l, r], a.Distinct env.context today) (h : env.binary op l r = .ok c) :
    c.Distinct env.context today := by
  rcases binary_ok h with ⟨_, _, _, _, _, _, _, rfl⟩ | h
  · exact distinct_fold _
  · exact distinct_lift ha hd h

theorem distinct_project {source : Plan} {names : List String} {keep : Bool} {s : Schema}
    (hd : (Compiled.dataset source).Distinct env.context today) :
    (Compiled.dataset (.project source names keep s)).Distinct env.context today := by
  intro r hr
  rw [Plan.eval] at hr
  obtain ⟨d, hs, hr⟩ := ok_of_bind hr
  exact Dataset.distinct_project (hd d hs) hr

theorem distinct_check {condition : Plan} {other : Option Plan} {check : Check} {s : Schema}
    (hd : (Compiled.dataset condition).Distinct env.context today) :
    (Compiled.dataset (.check condition other check s)).Distinct env.context today := by
  intro r hr
  rw [Plan.eval] at hr
  obtain ⟨d, hs, hr⟩ := ok_of_bind hr
  obtain ⟨value, _, hr⟩ := ok_of_bind hr
  exact Check.distinct_evaluate (hd d hs) hr

/-- In a context of distinct datasets and rulesets with distinct ids every expression has a distinct
    result. -/
theorem Compiles.distinct {f : Frame} {e : Expr} {c : Compiled} (h : Compiles env f e c)
    (hd : env.context.Distinct) (hr : env.context.IdsDistinct) (today : Date) :
    c.Distinct env.context today := by
  induction h with
  | literal => trivial
  | name h => exact distinct_name hd h
  | unary he h ih =>
    exact distinct_lift (List.forall_mem_singleton.2 (he.agrees today))
      (List.forall_mem_singleton.2 ih) h
  | binary hl hr h ihl ihr =>
    refine distinct_binary ?_ ?_ h
    · exact List.forall_mem_cons.2 ⟨hl.agrees today, List.forall_mem_singleton.2 (hr.agrees today)⟩
    · exact List.forall_mem_cons.2 ⟨ihl, List.forall_mem_singleton.2 ihr⟩
  | conditional _ _ _ h =>
    obtain ⟨_, _, _, rfl⟩ := conditional_ok h
    exact distinct_fold _
  | cast he h ih =>
    exact distinct_lift (List.forall_mem_singleton.2 (he.agrees today))
      (List.forall_mem_singleton.2 ih) h
  | call hlen hargs h ih =>
    refine distinct_lift (fun a ha => ?_) (fun a ha => ?_) h
    · obtain ⟨e, hz⟩ := exists_mem_zip hlen ha
      exact (hargs e a hz).agrees today
    · obtain ⟨e, hz⟩ := exists_mem_zip hlen ha
      exact ih e a hz
  | member he h ih =>
    exact distinct_lift (List.forall_mem_singleton.2 (he.agrees today))
      (List.forall_mem_singleton.2 ih) h
  | select _ h ih =>
    obtain ⟨s, _, rfl⟩ := selectPlan_ok h
    exact distinct_project ih
  | filter _ _ _ ih =>
    intro r he
    rw [Plan.eval] at he
    obtain ⟨d, hs, he⟩ := ok_of_bind he
    exact Dataset.distinct_filter (ih d hs) he
  | keep _ h ih =>
    obtain ⟨s, _, rfl⟩ := projectPlan_ok h
    exact distinct_project ih
  | drop _ h ih =>
    obtain ⟨s, _, rfl⟩ := projectPlan_ok h
    exact distinct_project ih
  | rename _ h ih =>
    obtain ⟨s, _, rfl⟩ := renamePlan_ok h
    intro r he
    rw [Plan.eval] at he
    obtain ⟨d, hs, he⟩ := ok_of_bind he
    exact Dataset.distinct_rename (ih d hs) he
  | calculate _ _ _ h ih =>
    obtain ⟨_, _, s, _, _, _, rfl⟩ := calculatePlan_ok h
    intro r he
    rw [Plan.eval] at he
    obtain ⟨d, hs, he⟩ := ok_of_bind he
    exact Dataset.distinct_calculateOver (ih d hs) he
  | combine _ _ _ h =>
    obtain ⟨_, _, _, _, rfl⟩ := combinePlan_ok h
    intro r he
    rw [Plan.eval] at he
    obtain ⟨ds, _, he⟩ := ok_of_bind he
    exact SetOp.distinct_evaluate he
  | window _ h ih =>
    obtain ⟨_, _, s, _, _, _, rfl⟩ := windowPlan_ok h
    intro r he
    rw [Plan.eval] at he
    obtain ⟨d, hs, he⟩ := ok_of_bind he
    exact Dataset.distinct_windowedOver (ih d hs) he
  | checkDatapoint _ hrs _ hrules _ h ih =>
    obtain ⟨s, _, rfl⟩ := checkDatapointPlan_ok h
    intro r he
    rw [Plan.eval] at he
    obtain ⟨d, hs, he⟩ := ok_of_bind he
    refine DatapointCheck.distinct_evaluate (ih d hs) ?_ he
    rw [hrules.ids]
    exact hr _ _ (datapointRuleset_ok hrs)
  | check _ _ _ _ _ _ _ _ _ h ih =>
    obtain ⟨s, _, rfl⟩ := checkPlan_ok h
    exact distinct_check ih
  | checkHierarchy _ hrs h =>
    obtain ⟨_, _, s, _, _, _, rfl⟩ := checkHierarchyPlan_ok h
    intro r he
    rw [Plan.eval] at he
    obtain ⟨d, hs, he⟩ := ok_of_bind he
    refine HierarchyCheck.distinct_evaluate ?_ he
    exact hr _ _ (hierarchicalRuleset_ok hrs)

end Compile

namespace Context

theorem eq_of_get?_singleton {name n : String} {b b' : Binding}
    (h : get? ⟨[(name, b)]⟩ n = some b') : b' = b := by
  unfold get? at h
  obtain ⟨p, hp, rfl⟩ := Option.map_eq_some_iff.1 h
  rw [List.mem_singleton.1 (List.mem_of_find?_eq_some hp)]

theorem Distinct.set {c : Context} (h : c.Distinct) {name : String} {b : Binding}
    (hb : ∀ d, b = .dataset d → d.Distinct) : (c.set name b).Distinct := by
  intro n d hn
  by_cases he : n = name
  · subst he
    rw [get?_set_self] at hn
    exact hb d (Option.some.inj hn)
  · rw [get?_set_of_ne c b he] at hn
    exact h n d hn

theorem Defined.set {c : Context} (h : c.Defined) {name : String} {b : Binding}
    (hb : b.Defined) : (c.set name b).Defined := by
  intro n b' hn
  by_cases he : n = name
  · subst he
    rw [get?_set_self] at hn
    exact Option.some.inj hn ▸ hb
  · rw [get?_set_of_ne c b he] at hn
    exact h n b' hn

end Context

namespace Session

/-- The session after statements, each executed on its day. A failure does not end the sequence. -/
def after (s : Session) (steps : List (Date × Statement)) : Session :=
  steps.foldl (fun s st => (s.execute st.1 st.2).1) s

theorem defined_ok {α : Type} {f : α → Binding} {x : Compile.Result α} {b : Binding}
    (h : defined f x = .ok b) : ∃ a, x = .ok a ∧ b = f a := by
  cases x with
  | ok a =>
    cases h
    exact ⟨a, rfl, rfl⟩
  | error e => cases h

theorem compileExpr_ok {s : Session} {e : Expr} {c : Compiled} (h : s.compileExpr e = .ok c) :
    Compile.compile ⟨s.context, s.config⟩ e = .ok c := by
  unfold compileExpr at h
  split at h
  · rename_i hc
    cases h
    exact hc
  · cases h

theorem outcome_ok {s : Session} (hd : s.context.Distinct) (hr : s.context.Defined) {today : Date}
    {st : Statement} {b : Binding} (h : s.outcome today st = .ok b) :
    (∀ d, b = .dataset d → d.Distinct) ∧ b.Defined := by
  cases st with
  | assign p name e =>
    obtain ⟨c, hc, h⟩ := ok_of_bind h
    have hk := Compile.compile_compiles (compileExpr_ok hc)
    split at h
    · rename_i bound hb
      cases h
      cases c with
      | dataset plan =>
        obtain ⟨d, he, hb⟩ := ok_of_bind hb
        cases eq_of_pure_ok hb
        refine ⟨fun r hbr => ?_, trivial⟩
        cases hbr
        exact hk.distinct hd hr.idsDistinct today d he
      | scalar e =>
        obtain ⟨v, _, hb⟩ := ok_of_bind hb
        cases eq_of_pure_ok hb
        exact ⟨nofun, trivial⟩
    · cases h
  | defineDatapoint p name domain vars rules =>
    obtain ⟨rs, hrs, rfl⟩ := defined_ok h
    exact ⟨nofun, p, name, domain, vars, rules, hrs⟩
  | defineHierarchy p name domain codes rules =>
    obtain ⟨rs, hrs, rfl⟩ := defined_ok h
    exact ⟨nofun, name, domain, codes, rules, hrs⟩

theorem execute_keeps {s : Session} (hd : s.context.Distinct) (hr : s.context.Defined)
    (today : Date) (st : Statement) :
    (s.execute today st).1.context.Distinct ∧ (s.execute today st).1.context.Defined := by
  unfold execute
  split
  · rename_i b hb
    obtain ⟨h1, h2⟩ := outcome_ok hd hr hb
    exact ⟨hd.set h1, hr.set h2⟩
  · exact ⟨hd, hr⟩

/-- From distinct datasets and defined rulesets, statements in any number, succeeding or failing,
    lead to distinct datasets. -/
theorem distinct_after (s : Session) (hd : s.context.Distinct) (hr : s.context.Defined)
    (steps : List (Date × Statement)) : (s.after steps).context.Distinct := by
  induction steps generalizing s with
  | nil => exact hd
  | cons st steps ih =>
    obtain ⟨h1, h2⟩ := execute_keeps hd hr st.1 st.2
    exact ih _ h1 h2

def tallySteps : List (Date × Statement) :=
  [(.epoch, .defineDatapoint {} "positive" .components [⟨"m", none⟩]
      [{ consequent := .binary {} (.compare .gt) (.name {} "m") (.literal {} (.integer 0)) }]),
   (.epoch, .assign {} "missing" (.name {} "E")),
   (.epoch, .assign {} "report" (.checkDatapoint {} (.name {} "D") "positive" [] .all))]

def tallySession : Session := ⟨{}, .memory, ⟨[("D", .dataset tally)]⟩⟩

set_option maxRecDepth 4000 in
theorem distinct_after_tallySteps :
    ∃ d, (tallySession.after tallySteps).context.get? "report" = some (.dataset d) ∧
      d.rows.length = 2 ∧ d.Distinct := by
  refine ⟨_, rfl, rfl, ?_⟩
  refine distinct_after tallySession ?_ ?_ tallySteps "report" _ rfl
  · intro n d hn
    cases Context.eq_of_get?_singleton hn
    unfold Dataset.Distinct
    decide
  · intro n b hn
    cases Context.eq_of_get?_singleton hn
    trivial

end Session
end Tabular
