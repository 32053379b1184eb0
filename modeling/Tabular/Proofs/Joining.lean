import Tabular.Proofs.Joining.Joins
import Tabular.Proofs.Joining.Plans
import Tabular.Proofs.Lifting.Rows
import Tabular.Proofs.Safety

set_option autoImplicit false

/-!
# How datasets are joined

Compilation compares the structures that are joined in three ways: of the operands of a set
operation all components, of those of an operation on measures only the names of identifiers, and of
a condition and its imbalance nothing. So an expression that is accepted can join by identifiers of
different types, and then rows do not meet, or a check can look for identifiers that the imbalance
does not have, and then it fails whatever the rows are.
-/
namespace Tabular

theorem Plan.evalAll_forall₂ {c : Context} {today : Date} {ps : List Plan} {ds : List Dataset}
    (h : Plan.evalAll c today ps = .ok ds) :
    List.Forall₂ (fun p d => p.eval c today = .ok d) ps ds := by
  induction ps generalizing ds with
  | nil =>
    rw [Plan.evalAll] at h
    cases h
    exact .nil
  | cons p rest ih =>
    rw [Plan.evalAll] at h
    obtain ⟨d, hd, h⟩ := ok_of_bind h
    obtain ⟨more, hm, h⟩ := ok_of_bind h
    cases eq_of_pure_ok h
    exact .cons hd (ih hm)

theorem Plan.exists_of_evalAll {c : Context} {today : Date} {ps : List Plan} {ds : List Dataset}
    (h : Plan.evalAll c today ps = .ok ds) {p : Plan} (hp : p ∈ ps) :
    ∃ d, p.eval c today = .ok d := by
  obtain ⟨d, _, hd⟩ := exists_left_of_mem (evalAll_forall₂ h).flip hp
  exact ⟨d, hd⟩

theorem Plan.finds_evalAll {c : Context} {today : Date} {ps : List Plan}
    (h : ∀ p ∈ ps, Finds (p.eval c today)) : Finds (Plan.evalAll c today ps) := by
  induction ps with
  | nil =>
    rw [Plan.evalAll]
    exact .ok []
  | cons p rest ih =>
    obtain ⟨h1, h2⟩ := List.forall_mem_cons.1 h
    rw [Plan.evalAll]
    exact h1.bind fun _ _ => (ih h2).bind fun _ _ => .ok _

theorem Compiled.exists_plan_of_shaped {as : List Compiled} {os : List Operand}
    (h : List.Forall₂ Compiled.Shaped as os) {d : Dataset} (hd : Operand.dataset d ∈ os) :
    ∃ p, Compiled.dataset p ∈ as ∧ d.schema = p.schema := by
  obtain ⟨a, ha, hs⟩ := exists_left_of_mem h hd
  cases a with
  | scalar _ => exact hs.elim
  | dataset p => exact ⟨p, ha, hs⟩

theorem Check.covered_of_evaluate {c : Check} {outer : Scope} {d e r : Dataset}
    (h : c.evaluate outer d (some e) = .ok r) :
    ∀ n ∈ d.schema.identifierNames, n ∈ e.schema.names := by
  obtain ⟨_, _, h⟩ := ok_of_bind h
  obtain ⟨_, _, h⟩ := ok_of_bind h
  obtain ⟨_, hrows, _⟩ := ok_of_bind h
  obtain ⟨_, _, hrows⟩ := ok_of_bind hrows
  obtain ⟨_, hothers, _⟩ := ok_of_bind hrows
  obtain ⟨_, _, hothers⟩ := ok_of_bind hothers
  obtain ⟨_, _, hothers⟩ := ok_of_bind hothers
  obtain ⟨_, hids, _⟩ := ok_of_bind hothers
  intro n hn
  obtain ⟨_, _, hi⟩ := exists_left_of_mem (Schema.positions_ok (liftModel_ok hids)).flip hn
  exact Schema.mem_names_of_indexOf? hi

namespace Compile

variable {env : Env} {today : Date} {f : Frame}

theorem linked_fold (e : Scalar) : (env.fold (.scalar e)).Linked env.context today := trivial

theorem linked_name {n : String} {c : Compiled} (h : env.name f n = .ok c) :
    c.Linked env.context today := by
  rcases name_ok h with ⟨_, _, _, rfl⟩ | ⟨_, _, _, rfl⟩ | ⟨d, hb, rfl⟩
  · trivial
  · trivial
  · refine Plan.Linked.of_unjoined [] nofun rfl (fun j => ?_) (fun _ _ => nofun) fun _ => ?_
    · change j ∈ [] ↔ _
      simp
    · rw [Plan.eval_named hb]
      exact .ok d

theorem shaped_of_evalAll {operands : List Compiled} {values : List Operand}
    (h : Compiled.evalAll env.context today operands = .ok values)
    (ha : ∀ a ∈ operands, a.Agrees env.context today) :
    List.Forall₂ Compiled.Shaped operands values := by
  have hall := evalAll_forall₂ h
  clear h
  induction hall with
  | nil => exact .nil
  | cons ho _ ih =>
    rename_i a o as os _
    obtain ⟨ha1, ha2⟩ := List.forall_mem_cons.1 ha
    refine .cons ?_ (ih ha2)
    cases a with
    | scalar e =>
      obtain ⟨v, _, rfl⟩ := eval_scalar_ok ho
      trivial
    | dataset p =>
      obtain ⟨d, hd, rfl⟩ := eval_dataset_ok ho
      exact ha1 d hd

theorem finds_evalAll {operands : List Compiled}
    (h : ∀ p ∈ plans operands, Finds (p.eval env.context today)) :
    Finds (Compiled.evalAll env.context today operands) := by
  induction operands with
  | nil =>
    rw [Compiled.evalAll]
    exact .ok []
  | cons a rest ih =>
    have hone : Finds (a.eval env.context today) := by
      cases a with
      | scalar e =>
        rw [Compiled.eval]
        exact (e.finds_eval _).bind fun _ _ => .ok _
      | dataset p =>
        rw [Compiled.eval]
        exact (h p (mem_plans.2 (List.mem_cons_self ..))).bind fun _ _ => .ok _
    rw [Compiled.evalAll]
    refine hone.bind fun _ _ => (ih fun p hp => h p ?_).bind fun _ _ => .ok _
    exact mem_plans.2 (List.mem_cons_of_mem _ (mem_plans.1 hp))

section

variable {build : Builder} {operands : List Compiled} {first : Plan} {rest : List Plan}
  {outs : List MeasureOutput} {s : Schema}

theorem finds_map (ha : ∀ a ∈ operands, a.Agrees env.context today)
    (hp : plans operands = first :: rest) (hids : otherIdentifiers? first rest = none)
    (houts : outputs build operands ((sharedMeasures first (first :: rest)).length == 1)
      (sharedMeasures first (first :: rest)) = .ok outs)
    (hs : MeasureMap.schema ⟨first.schema.identifiers, outs⟩ = .ok s)
    (hf : ∀ p ∈ plans operands, Finds (p.eval env.context today)) :
    Finds ((Plan.map operands ⟨first.schema.identifiers, outs⟩ s).eval env.context today) := by
  have hplans : ∀ p, Compiled.dataset p ∈ operands → p ∈ first :: rest := by
    intro p hm
    rw [← hp]
    exact mem_plans.2 hm
  rw [Plan.eval]
  refine (finds_evalAll hf).bind fun values hv => ?_
  have hshaped := shaped_of_evalAll hv ha
  obtain ⟨hm, d, hd, hleading⟩ := Compiled.evalAll_leading hv hp
  have hd : d.schema = first.schema := ha _ hm d hd
  refine MeasureMap.finds_evaluate today hshaped hleading hs (by rw [hd]) ?_ fun o ho => ?_
  · intro e he
    obtain ⟨p, hpo, heq⟩ := Compiled.exists_plan_of_shaped hshaped he
    rw [hd, heq]
    exact identifiers_shared hids p (hplans p hpo)
  · obtain ⟨m, hmeasure, _, hsources⟩ := outputs_mem houts ho
    exact ⟨m.name, hsources, fun p hpo => measure_shared hmeasure p (hplans p hpo)⟩

theorem nullAt_map (ha : ∀ a ∈ operands, a.Agrees env.context today)
    (hp : plans operands = first :: rest) {q : Plan} (hq : q ∈ rest)
    (hcf : first.Conforms env.context today) (hcq : q.Conforms env.context today) {n : String} :
    let j : Join := ⟨.lifted, .map operands ⟨first.schema.identifiers, outs⟩ s, first, q⟩
    j.Mistyped n → j.NullAt env.context today n := by
  intro j hn e he row hrow
  rw [Plan.eval] at he
  obtain ⟨values, hv, he⟩ := ok_of_bind he
  obtain ⟨hm, d, hd, hleading⟩ := Compiled.evalAll_leading hv hp
  have hschema : d.schema = first.schema := ha _ hm d hd
  have hmem : Compiled.dataset q ∈ operands := by
    refine mem_plans.1 ?_
    rw [hp]
    exact List.mem_cons_of_mem _ hq
  obtain ⟨_, ho, hvalue⟩ := exists_left_of_mem (evalAll_forall₂ hv).flip hmem
  obtain ⟨b, hb, rfl⟩ := eval_dataset_ok hvalue
  have hmeets := MeasureMap.meets_of_evaluate hleading (by rw [hschema]) he hrow
  exact .inl (hn.null hschema (ha _ hmem b hb) (hcf d hd) (hcq b hb)
    (hmeets d (Operand.mem_of_leading hleading)) (hmeets b ho))

end

theorem linked_lift {build : Builder} {operands : List Compiled} {c : Compiled}
    (ha : ∀ a ∈ operands, a.Agrees env.context today)
    (hl : ∀ a ∈ operands, a.Linked env.context today) (h : env.lift build operands = .ok c) :
    c.Linked env.context today := by
  rcases lift_ok h with ⟨_, op, _, rfl⟩ | ⟨first, rest, hp, h⟩
  · exact linked_fold _
  obtain ⟨hids, outs, s, houts, hs, rfl⟩ := liftOver_ok h
  have hown : ∀ j ∈ (Plan.map operands ⟨first.schema.identifiers, outs⟩ s).ownJoins,
      ∃ q ∈ rest, ⟨.lifted, .map operands ⟨first.schema.identifiers, outs⟩ s, first, q⟩ = j := by
    intro j hj
    rw [Plan.ownJoins, hp] at hj
    exact List.mem_map.1 hj
  refine Plan.Linked.of_parts (plans operands) (fun p hm => hl _ (mem_plans.1 hm)) (fun j => ?_)
    (fun r hr p hm => ?_) (fun j hj => ?_) (fun r _ j hj hk => ?_)
    (fun _ hf => finds_map ha hp hids houts hs hf) (fun j hj hcf hcq n => ?_)
  · exact List.mem_append.trans (or_congr_right Compiled.mem_joinsAll)
  · rw [Plan.eval] at hr
    obtain ⟨values, hv, _⟩ := ok_of_bind hr
    exact Plan.exists_of_evalAll (evalAll_plans (evalAll_forall₂ hv)) hm
  · obtain ⟨q, hq, rfl⟩ := hown j hj
    refine ⟨fun _ n hn => (sameNames_of_otherIdentifiers hids hq).2 hn, fun hk => ?_⟩
    cases hk
  · obtain ⟨_, _, rfl⟩ := hown j hj
    cases hk
  · obtain ⟨q, hq, rfl⟩ := hown j hj
    exact nullAt_map ha hp hq hcf hcq

theorem linked_binary {op : BinaryOp} {l r c : Compiled}
    (ha : ∀ a ∈ [l, r], a.Agrees env.context today)
    (hl : ∀ a ∈ [l, r], a.Linked env.context today) (h : env.binary op l r = .ok c) :
    c.Linked env.context today := by
  rcases binary_ok h with ⟨_, _, _, _, _, _, _, rfl⟩ | h
  · exact linked_fold _
  · exact linked_lift ha hl h

theorem aligned_of_compatible {first q : Plan} (h : first.schema.compatible q.schema = true)
    (whole : Plan) : (⟨.combined, whole, first, q⟩ : Join).Aligned := by
  intro i hi
  have hmem : i ∈ q.schema.components :=
    SetOp.subset_of_compatible h (List.mem_of_mem_filter hi)
  exact ⟨i, List.mem_filter.2 ⟨hmem, (List.mem_filter.1 hi).2⟩, rfl, rfl⟩

theorem linked_combine {op : SetOp} {plans : List Plan} {plan : Plan}
    (ha : ∀ p ∈ plans, (Compiled.dataset p).Agrees env.context today)
    (hl : ∀ p ∈ plans, p.Linked env.context today) (h : combinePlan op plans = .ok plan) :
    plan.Linked env.context today := by
  obtain ⟨first, rest, rfl, hcompat, rfl⟩ := combinePlan_ok h
  refine Plan.Linked.of_parts (first :: rest) hl (fun j => ?_) (fun r hr p hp => ?_)
    (fun j hj => ?_) (fun _ _ j hj hk => ?_) (fun _ hf => ?_) (fun j hj _ _ n hn => ?_)
  · exact List.mem_append.trans (or_congr_right Plan.mem_joinsAll)
  · rw [Plan.eval] at hr
    obtain ⟨ds, hds, _⟩ := ok_of_bind hr
    exact Plan.exists_of_evalAll hds hp
  · obtain ⟨q, hq, rfl⟩ := List.mem_map.1 hj
    refine ⟨fun hk => ?_, fun _ => aligned_of_compatible (hcompat q hq) _⟩
    cases hk
  · obtain ⟨_, _, rfl⟩ := List.mem_map.1 hj
    cases hk
  · rw [Plan.eval]
    refine (Plan.finds_evalAll hf).bind fun ds hds => ?_
    cases Plan.evalAll_forall₂ hds with
    | cons hd hrest =>
      refine op.finds_evaluate fun e he => ?_
      obtain ⟨q, hq, heq⟩ := exists_left_of_mem hrest he
      rw [ha first (List.mem_cons_self ..) _ hd, ha q (List.mem_cons_of_mem _ hq) e heq]
      exact hcompat q hq
  · obtain ⟨q, hq, rfl⟩ := List.mem_map.1 hj
    exact absurd hn ((aligned_of_compatible (hcompat q hq) _).not_mistyped n)

section

variable {condition plan : Plan} {other : Option Plan} {type : Option ScalarType} {check : Check}
  {s : Schema}

theorem evalOption_ok {value : Option Dataset}
    (h : Plan.evalOption env.context today other = .ok value) :
    ∀ q ∈ other.toList, ∃ e, q.eval env.context today = .ok e ∧ value = some e := by
  intro q hq
  cases Option.mem_toList.1 hq
  obtain ⟨e, he, h⟩ := ok_of_bind h
  exact ⟨e, he, (eq_of_pure_ok h).symm⟩

theorem eval_check_ok {r : Dataset}
    (h : (Plan.check condition other check s).eval env.context today = .ok r) :
    ∃ d value, condition.eval env.context today = .ok d ∧
      Plan.evalOption env.context today other = .ok value ∧
      check.evaluate (env.context.scope today) d value = .ok r := by
  rw [Plan.eval] at h
  obtain ⟨d, hd, h⟩ := ok_of_bind h
  obtain ⟨value, hv, h⟩ := ok_of_bind h
  exact ⟨d, value, hd, hv, h⟩

variable (hs : (Compiled.dataset condition).Agrees env.context today)
  (ho : ∀ q, other = some q → (Compiled.dataset q).Agrees env.context today)

include hs ho

theorem finds_check (ht : imbalanceType other = .ok type)
    (hschema : Check.schema condition.schema type = .ok s)
    (hcovered : ∀ q, other = some q →
      ∀ n ∈ condition.schema.identifierNames, n ∈ q.schema.names)
    (hc : Finds (condition.eval env.context today))
    (hf : ∀ q ∈ other.toList, Finds (q.eval env.context today)) :
    Finds ((Plan.check condition other check s).eval env.context today) := by
  have hother : Finds (Plan.evalOption env.context today other) := by
    cases other with
    | none => exact .ok none
    | some q => exact (hf q (List.mem_cons_self ..)).bind fun _ _ => .ok _
  rw [Plan.eval]
  refine hc.bind fun d hd => hother.bind fun value hv => ?_
  refine Check.finds_evaluate (fun found hfound => ⟨s, ?_⟩) (fun e he => ?_) _
  · rw [hs d hd, imbalanceType_agrees ho ht hv hfound]
    exact hschema
  · subst he
    cases other with
    | none => cases hv
    | some q =>
      obtain ⟨b, hb, heq⟩ := evalOption_ok hv q (List.mem_cons_self ..)
      cases heq
      rw [hs d hd, ho q rfl e hb]
      exact hcovered q rfl

theorem nullAt_check {q : Plan} (hq : other = some q)
    (hcf : condition.Conforms env.context today) (hcq : q.Conforms env.context today)
    {n : String} :
    let j : Join := ⟨.checked, .check condition other check s, condition, q⟩
    j.Mistyped n → j.NullAt env.context today n := by
  intro j hn r hr row hrow
  obtain ⟨d, value, hd, hv, hr⟩ := eval_check_ok hr
  obtain ⟨e, he, rfl⟩ := evalOption_ok hv q (Option.mem_toList.2 hq)
  obtain ⟨hmd, hnull | hme⟩ := Check.meets_of_evaluate hr hrow
  · exact .inr ⟨rfl, hnull⟩
  · exact .inl (hn.null (hs d hd) (ho q hq e he) (hcf d hd) (hcq e he) hmd hme)

theorem linked_check {c l : Scalar} {invalid : Bool} (hl : condition.Linked env.context today)
    (hlo : ∀ q, other = some q → q.Linked env.context today)
    (ht : imbalanceType other = .ok type)
    (h : checkPlan condition other type c l invalid = .ok plan) :
    plan.Linked env.context today := by
  obtain ⟨s, hschema, rfl⟩ := checkPlan_ok h
  refine Plan.Linked.of_parts (condition :: other.toList) ?_ (fun j => ?_) (fun r hr => ?_)
    (fun j hj => ?_) (fun r hr j hj _ => ?_) (fun hk hf => ?_) (fun j hj hcf hcq n => ?_)
  · exact List.forall_mem_cons.2 ⟨hl, fun q hq => hlo q (Option.mem_toList.1 hq)⟩
  · change j ∈ _ ++ (condition.joins ++ Plan.joinsOption other) ↔ _
    rw [List.mem_append, List.mem_append, Plan.mem_joinsOption, List.exists_mem_cons_iff]
  · obtain ⟨d, value, hd, hv, _⟩ := eval_check_ok hr
    refine List.forall_mem_cons.2 ⟨⟨d, hd⟩, fun q hq => ?_⟩
    exact (evalOption_ok hv q hq).imp fun _ he => he.1
  · obtain ⟨q, _, rfl⟩ := List.mem_map.1 hj
    exact ⟨nofun, nofun⟩
  · obtain ⟨q, hq, rfl⟩ := List.mem_map.1 hj
    obtain ⟨d, value, hd, hv, hr⟩ := eval_check_ok hr
    obtain ⟨e, he, rfl⟩ := evalOption_ok hv q hq
    have hcovered := Check.covered_of_evaluate hr
    rw [hs d hd, ho q (Option.mem_toList.1 hq) e he] at hcovered
    exact hcovered
  · obtain ⟨hc, hf⟩ := List.forall_mem_cons.1 hf
    refine finds_check hs ho ht hschema (fun q hq => ?_) hc hf
    exact hk _ (List.mem_map_of_mem (Option.mem_toList.2 hq)) rfl
  · obtain ⟨q, hq, rfl⟩ := List.mem_map.1 hj
    exact nullAt_check hs ho (Option.mem_toList.1 hq) hcf hcq

end

section

variable {source plan : Plan} (hs : (Compiled.dataset source).Agrees env.context today)
  (hl : source.Linked env.context today)

include hs hl

theorem linked_project {names : List String} {keep : Bool} {s : Schema}
    (h : source.schema.project names keep = .ok s) :
    (Plan.project source names keep s).Linked env.context today := by
  refine hl.step rfl rfl rfl fun d hd => ?_
  rw [← hs d hd] at h
  exact Dataset.finds_project h

theorem linked_rename {pairs : List (String × String)} {s : Schema}
    (h : source.schema.rename pairs = .ok s) :
    (Plan.rename source pairs s).Linked env.context today := by
  refine hl.step rfl rfl rfl fun d hd => ?_
  rw [← hs d hd] at h
  exact Dataset.finds_rename h

theorem linked_calculate {n : Nat} {items : List CalcItem} {bodies : List (Expr × Scalar)}
    {calculated : List Calculated} (hitems : Items source n items bodies calculated)
    (h : calculatePlan source calculated = .ok plan) : plan.Linked env.context today := by
  obtain ⟨staged, assigned, s, hw, ha, hp, rfl⟩ := calculatePlan_ok h
  have happly := hitems.applies
  refine hl.step rfl rfl rfl fun d hd => ?_
  rw [← hs d hd] at hw happly
  exact Dataset.finds_calculateOver hw happly ha hp _

theorem linked_window {fn : WindowFunction} {extent : Extent}
    (h : windowPlan fn extent source = .ok plan) : plan.Linked env.context today := by
  obtain ⟨calls, staged, s, hcalls, hw, hp, rfl⟩ := windowPlan_ok h
  have happly := windowCalls_apply hcalls
  refine hl.step rfl rfl rfl fun d hd => ?_
  rw [← hs d hd] at hw happly
  exact Dataset.finds_windowedOver hw happly hp

theorem linked_checkDatapoint {frame : Frame} {rules : List RowRule} {mode : OutputMode}
    (h : checkDatapointPlan source frame rules mode = .ok plan) :
    plan.Linked env.context today := by
  obtain ⟨s, hp, rfl⟩ := checkDatapointPlan_ok h
  refine hl.step rfl rfl rfl fun d hd => ?_
  refine DatapointCheck.finds_evaluate (s := s) ?_ _
  rw [hs d hd]
  exact hp

theorem linked_checkHierarchy {config : Config} {rs : HierarchicalRuleset}
    {given : Option String} {validation : ValidationMode} {input : InputMode} {output : OutputMode}
    (h : checkHierarchyPlan config source rs given validation input output = .ok plan) :
    plan.Linked env.context today := by
  obtain ⟨component, target, s, _, htarget, hp, rfl⟩ := checkHierarchyPlan_ok h
  obtain ⟨m, i, hm, _, hi, _, rfl⟩ := HierarchyTarget.of_ok htarget
  refine hl.step rfl rfl rfl fun d hd => ?_
  have hd := hs d hd
  refine HierarchyCheck.finds_evaluate (s := s) (by rw [hd]; exact hp) ?_ ?_
  · rw [hd]
    obtain ⟨hmem, hname⟩ := Schema.get?_eq_some.1 hi
    exact Schema.mem_names.2 ⟨i, hmem, hname⟩
  · rw [hd]
    have hsole := (Schema.soleMeasure?_ok hm).1
    have hmem : m ∈ source.schema.measures := hsole ▸ List.mem_singleton.2 rfl
    exact Schema.mem_names.2 ⟨m, List.mem_of_mem_filter hmem, rfl⟩

end

/-- One case for each node: those with several sources make joins, the others keep them. -/
theorem Compiles.linked {e : Expr} {c : Compiled} (h : Compiles env f e c) (today : Date) :
    c.Linked env.context today := by
  induction h with
  | literal => trivial
  | name h => exact linked_name h
  | unary he h ih =>
    exact linked_lift (List.forall_mem_singleton.2 (he.agrees today))
      (List.forall_mem_singleton.2 ih) h
  | binary hl hr h ihl ihr =>
    refine linked_binary ?_ ?_ h
    · exact List.forall_mem_cons.2 ⟨hl.agrees today, List.forall_mem_singleton.2 (hr.agrees today)⟩
    · exact List.forall_mem_cons.2 ⟨ihl, List.forall_mem_singleton.2 ihr⟩
  | conditional _ _ _ h =>
    obtain ⟨_, _, _, rfl⟩ := conditional_ok h
    exact linked_fold _
  | cast he h ih =>
    exact linked_lift (List.forall_mem_singleton.2 (he.agrees today))
      (List.forall_mem_singleton.2 ih) h
  | call hlen hargs h ih =>
    refine linked_lift (fun a ha => ?_) (fun a ha => ?_) h
    · obtain ⟨e, hz⟩ := exists_mem_zip hlen ha
      exact (hargs e a hz).agrees today
    · obtain ⟨e, hz⟩ := exists_mem_zip hlen ha
      exact ih e a hz
  | member he h ih =>
    exact linked_lift (List.forall_mem_singleton.2 (he.agrees today))
      (List.forall_mem_singleton.2 ih) h
  | select he h ih =>
    obtain ⟨s, hp, rfl⟩ := selectPlan_ok h
    exact linked_project (he.agrees today) ih hp
  | filter _ _ _ ih =>
    exact Plan.Linked.step ih rfl rfl rfl fun d _ => d.finds_filter _ _
  | keep he h ih =>
    obtain ⟨s, hp, rfl⟩ := projectPlan_ok h
    exact linked_project (he.agrees today) ih hp
  | drop he h ih =>
    obtain ⟨s, hp, rfl⟩ := projectPlan_ok h
    exact linked_project (he.agrees today) ih hp
  | rename he h ih =>
    obtain ⟨s, hp, rfl⟩ := renamePlan_ok h
    exact linked_rename (he.agrees today) ih hp
  | calculate he hitems _ h ih => exact linked_calculate (he.agrees today) ih hitems h
  | combine _ hlen hes h ih =>
    refine linked_combine (fun p hp => ?_) (fun p hp => ?_) h
    · obtain ⟨e, hz⟩ := exists_mem_zip hlen hp
      exact (hes e p hz).agrees today
    · obtain ⟨e, hz⟩ := exists_mem_zip hlen hp
      exact ih e p hz
  | window he h ih => exact linked_window (he.agrees today) ih h
  | checkDatapoint he _ _ _ _ h ih => exact linked_checkDatapoint (he.agrees today) ih h
  | check he _ hsome hother htype _ _ _ _ h ih iho =>
    refine linked_check (he.agrees today) (fun q hq => ?_) ih (fun q hq => ?_) htype h
    all_goals
      obtain ⟨i, hi⟩ := Option.isSome_iff_exists.1 (hsome.trans (by rw [hq]; rfl))
    · exact (hother i q hi hq).agrees today
    · exact iho i q hi hq
  | checkHierarchy he _ h ih => exact linked_checkHierarchy (he.agrees today) ih h

/-- Of an accepted expression the operations on measures join by identifiers of the same names and
    the set operations by identifiers of the same names and types. Its evaluation succeeds only if
    the checks have the columns they join by, and if they have them, no component is missing. Where
    the types differ, only rows that are null there have partners. -/
theorem joins_of_compile {env : Env} {e : Expr} {c : Compiled} (h : compile env e = .ok c)
    (today : Date) :
    (∀ j ∈ c.joins, (j.kind = .lifted → j.Named) ∧ (j.kind = .combined → j.Aligned)) ∧
    ((∃ o, c.eval env.context today = .ok o) → ∀ j ∈ c.joins, j.kind = .checked → j.Covered) ∧
    ((∀ j ∈ c.joins, j.kind = .checked → j.Covered) →
      ∀ n, c.eval env.context today ≠ .error (.model (.unknownComponent n))) ∧
    ∀ j ∈ c.joins, ∀ n, j.Mistyped n → j.first.Conforms env.context today →
      j.other.Conforms env.context today → j.NullAt env.context today n := by
  have hl := (compile_compiles h).linked today
  cases c with
  | scalar s =>
    have hnone : ∀ j, j ∉ ([] : List Join) := fun _ => List.not_mem_nil
    refine ⟨fun j hj => absurd hj (hnone j), fun _ j hj => absurd hj (hnone j), fun _ => ?_,
      fun j hj => absurd hj (hnone j)⟩
    rw [Compiled.eval]
    exact (s.finds_eval _).bind fun _ _ => .ok _
  | dataset p =>
    refine ⟨hl.vetted, ?_, fun hk => ?_, ?_⟩
    · rintro ⟨o, ho⟩
      obtain ⟨d, hd, _⟩ := eval_dataset_ok ho
      exact hl.keyed d hd
    · rw [Compiled.eval]
      exact (hl.finds hk).bind fun _ _ => .ok _
    · intro j hj n hn hcf hco
      exact hl.matched j hj hcf hco n hn

def numbered : Dataset where
  schema := tally.schema
  rows := [[.integer 1, .integer 5], [.null, .integer 6]]

def lettered : Dataset where
  schema := ⟨[.identifier "k" .string, .measure "m" .integer], by decide, by decide⟩
  rows := [[.string "1", .integer 7], [.null, .integer 8]]

def judged : Dataset where
  schema := ⟨[.identifier "k" .integer, .measure "ok" .boolean], by decide, by decide⟩
  rows := [[.integer 1, .boolean true]]

def strayed : Dataset where
  schema := ⟨[.identifier "other" .integer, .measure "m" .integer], by decide, by decide⟩
  rows := [[.integer 1, .integer 9]]

def keysEnv : Env where
  context := ⟨[("D", .dataset numbered), ("E", .dataset lettered), ("C", .dataset judged),
    ("I", .dataset strayed)]⟩
  config := {}

def keysSum : Expr := .binary {} (.arithmetic .add) (.name {} "D") (.name {} "E")

def keysCheck : Expr := .check {} (.name {} "C") none none (some (.name {} "I")) false

theorem wellFormed_keys :
    ∀ d ∈ [numbered, lettered, judged, strayed], d.Conforms ∧ d.Distinct := by
  unfold Dataset.Conforms Schema.Admits Conform Dataset.Distinct
  decide

theorem wellFormed_keysEnv : keysEnv.context.WellFormed := by
  refine wellFormed_of_entries fun p hp => ?_
  obtain ⟨d, hd, hb⟩ : ∃ d ∈ [numbered, lettered, judged, strayed], p.2 = .dataset d := by
    simp only [keysEnv, List.mem_cons, List.not_mem_nil, or_false] at hp
    rcases hp with rfl | rfl | rfl | rfl <;> simp
  rw [hb]
  exact wellFormed_keys d hd

theorem joins_keysSum : ∃ p, compile keysEnv keysSum = .ok (.dataset p) ∧
    p.joins = [⟨.lifted, p, .named "D" numbered.schema, .named "E" lettered.schema⟩] :=
  ⟨_, rfl, rfl⟩

theorem mistyped_keys (kind : JoinKind) (whole : Plan) :
    Join.Mistyped ⟨kind, whole, .named "D" numbered.schema, .named "E" lettered.schema⟩ "k" :=
  ⟨.identifier "k" .integer, List.mem_cons_self .., .identifier "k" .string,
    List.mem_cons_self .., rfl, rfl, nofun⟩

theorem conforms_named {n : String} {d : Dataset} (h : keysEnv.context.get? n = some (.dataset d))
    (s : Schema) : (Plan.named n s).Conforms keysEnv.context .epoch := by
  intro e he
  rw [Plan.eval_named h] at he
  cases he
  exact (wellFormed_keysEnv n _ h).1

theorem joins_of_compile_keysSum : ∃ p, compile keysEnv keysSum = .ok (.dataset p) ∧
    (∃ j ∈ p.joins, j.Named ∧ j.NullAt keysEnv.context .epoch "k") ∧
    ∀ n, (Compiled.dataset p).eval keysEnv.context .epoch ≠
      .error (.model (.unknownComponent n)) := by
  obtain ⟨p, hp, hjoins⟩ := joins_keysSum
  obtain ⟨hvetted, _, hfinds, hmatched⟩ := joins_of_compile hp .epoch
  change ∀ j ∈ p.joins, _ at hvetted hmatched
  change (∀ j ∈ p.joins, _) → _ at hfinds
  rw [hjoins] at hvetted hfinds hmatched
  rw [List.forall_mem_singleton] at hvetted hmatched
  refine ⟨p, hp, ?_, hfinds (List.forall_mem_singleton.2 fun hk => by cases hk)⟩
  rw [hjoins]
  refine ⟨_, List.mem_singleton.2 rfl, hvetted.1 rfl, ?_⟩
  exact hmatched "k" (mistyped_keys _ _) (conforms_named rfl _) (conforms_named rfl _)

/-- The sum is accepted and matches nothing but the null key, and the check is accepted and fails
    for the column it joins by. -/
theorem keys_unvetted : keysEnv.context.WellFormed ∧
    (∃ p, compile keysEnv keysSum = .ok (.dataset p) ∧ (∃ j ∈ p.joins, ¬ j.Aligned) ∧
      p.eval keysEnv.context .epoch = .ok ⟨p.schema, [[.null, .integer 14]]⟩) ∧
    ∃ q, compile keysEnv keysCheck = .ok (.dataset q) ∧
      q.eval keysEnv.context .epoch = .error (.model (.unknownComponent "k")) := by
  refine ⟨wellFormed_keysEnv, ?_, _, rfl, rfl⟩
  obtain ⟨p, hp, hjoins⟩ := joins_keysSum
  refine ⟨p, hp, ?_, ?_⟩
  · rw [hjoins]
    refine ⟨_, List.mem_singleton.2 rfl, fun h => ?_⟩
    exact h.not_mistyped "k" (mistyped_keys _ _)
  · cases hp
    rfl

end Compile
end Tabular
