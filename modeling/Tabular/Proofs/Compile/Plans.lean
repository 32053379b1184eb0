import Tabular.Compile.Expr
import Tabular.Proofs.Outcome

set_option autoImplicit false

namespace Tabular

theorem Check.soleMeasure_ok {s : Schema} {name expected : String} {accept : ScalarType → Bool}
    {m : Component} (h : Check.soleMeasure s name accept expected = .ok m) :
    s.soleMeasure? = some m ∧ accept m.type = true := by
  unfold Check.soleMeasure at h
  split at h
  · rename_i hs
    split at h
    · rename_i ha
      cases h
      exact ⟨hs, ha⟩
    · cases h
  · cases h

theorem HierarchyTarget.of_ok {s : Schema} {dataset component : String} {input : InputMode}
    {t : HierarchyTarget} (h : HierarchyTarget.of s dataset component input = .ok t) :
    ∃ m c, s.soleMeasure? = some m ∧ m.type.isNumeric = true ∧ s.get? component = some c ∧
      c.isIdentifier = true ∧ t = ⟨m.name, m.type, component⟩ := by
  unfold HierarchyTarget.of at h
  split at h
  · cases h
  · split at h
    · cases h
    · rename_i m hm
      split at h
      · rename_i hn
        split at h
        · rename_i hc
          cases h
          obtain ⟨c, hg, hi⟩ := Option.any_eq_true .. |>.1 hc
          exact ⟨m, c, hm, hn, hg, hi, rfl⟩
        · cases h
      · cases h

namespace Compile

variable {env : Env}

theorem name_ok {f : Frame} {n : String} {c : Compiled} (h : env.name f n = .ok c) :
    (∃ component type, f.get? n = some (component, type) ∧ c = .scalar (.read component type)) ∨
    (∃ type v, env.context.get? n = some (.scalar type v) ∧ c = .scalar (.literal v type)) ∨
    ∃ d, env.context.get? n = some (.dataset d) ∧ c = .dataset (.named n d.schema) := by
  unfold Env.name at h
  split at h
  · rename_i component type hf
    cases h
    exact .inl ⟨component, type, hf, rfl⟩
  · split at h
    · rename_i type v hc
      cases h
      exact .inr (.inl ⟨type, v, hc, rfl⟩)
    · rename_i d hc
      cases h
      exact .inr (.inr ⟨d, hc, rfl⟩)
    · cases h
    · cases h

theorem datapointRuleset_ok {n : String} {rs : DatapointRuleset}
    (h : env.datapointRuleset n = .ok rs) :
    env.context.get? n = some (.datapointRuleset rs) := by
  unfold Env.datapointRuleset at h
  split at h
  · rename_i hc
    cases h
    exact hc
  · cases h
  · cases h

theorem hierarchicalRuleset_ok {n : String} {rs : HierarchicalRuleset}
    (h : env.hierarchicalRuleset n = .ok rs) :
    env.context.get? n = some (.hierarchicalRuleset rs) := by
  unfold Env.hierarchicalRuleset at h
  split at h
  · rename_i hc
    cases h
    exact hc
  · cases h
  · cases h

theorem liftOver_ok {build : Builder} {operands : List Compiled} {first : Plan} {rest : List Plan}
    {c : Compiled} (h : liftOver build operands first rest = .ok c) :
    otherIdentifiers? first rest = none ∧ ∃ outs s,
      outputs build operands ((sharedMeasures first (first :: rest)).length == 1)
        (sharedMeasures first (first :: rest)) = .ok outs ∧
      MeasureMap.schema ⟨first.schema.identifiers, outs⟩ = .ok s ∧
      c = .dataset (.map operands ⟨first.schema.identifiers, outs⟩ s) := by
  unfold liftOver at h
  split at h
  · cases h
  · rename_i hi
    split at h
    · cases h
    · obtain ⟨outs, ho, h⟩ := ok_of_bind h
      obtain ⟨s, hs, h⟩ := ok_of_bind h
      cases eq_of_pure_ok h
      exact ⟨hi, outs, s, ho, liftModel_ok (evaluation_ok hs), rfl⟩

theorem outputs_eq {build : Builder} {as : List Compiled} {alone : Bool} {ms : List Component}
    {outs : List MeasureOutput} (h : outputs build as alone ms = .ok outs) :
    ∃ op : Component → Operation,
      (∀ m ∈ ms, build (as.map (operandType m.name)) = .ok (op m)) ∧
      outs = ms.map fun m => ⟨outputName alone m (op m), op m, as.map (operandSource m.name)⟩ := by
  let op (m : Component) : Operation :=
    (build (as.map (operandType m.name))).toOption.getD .isNull
  refine ⟨op, ?_⟩
  induction ms generalizing outs with
  | nil =>
    cases h
    exact ⟨fun _ hm => absurd hm List.not_mem_nil, rfl⟩
  | cons m ms ih =>
    obtain ⟨o, ho, h⟩ := ok_of_bind h
    obtain ⟨rest, hr, h⟩ := ok_of_bind h
    cases eq_of_pure_ok h
    obtain ⟨hops, heq⟩ := ih hr
    have hop : op m = o := by
      change (build _).toOption.getD .isNull = o
      rw [ho]
      rfl
    refine ⟨List.forall_mem_cons.2 ⟨?_, hops⟩, ?_⟩
    · rw [hop, ho]
    · rw [List.map_cons, hop, heq]

theorem lift_map_ok {build : Builder} {operands : List Compiled} {m : MeasureMap} {s : Schema}
    (h : Compile.lift build operands = .ok (.dataset (.map operands m s))) :
    ∃ first rest, plans operands = first :: rest ∧ otherIdentifiers? first rest = none ∧
      outputs build operands ((sharedMeasures first (first :: rest)).length == 1)
        (sharedMeasures first (first :: rest)) = .ok m.outputs ∧
      m.identifiers = first.schema.identifiers ∧ m.schema = .ok s := by
  unfold Compile.lift at h
  split at h
  · obtain ⟨op, _, h⟩ := ok_of_bind h
    cases eq_of_pure_ok h
  · rename_i first rest hp
    obtain ⟨hids, outs, t, houts, hs, he⟩ := liftOver_ok h
    cases he
    exact ⟨first, rest, hp, hids, houts, rfl, hs⟩

theorem lift_ok {build : Builder} {operands : List Compiled} {c : Compiled}
    (h : env.lift build operands = .ok c) :
    (plans operands = [] ∧ ∃ op, build ((scalars operands).map Scalar.type?) = .ok op ∧
      c = env.fold (.scalar (.apply op (scalars operands)))) ∨
    ∃ first rest, plans operands = first :: rest ∧
      liftOver build operands first rest = .ok c := by
  unfold Env.lift Compile.lift at h
  obtain ⟨a, ha, h⟩ := ok_of_bind h
  split at ha
  · rename_i hp
    obtain ⟨op, ho, ha⟩ := ok_of_bind ha
    cases eq_of_pure_ok ha
    exact .inl ⟨hp, op, ho, (eq_of_pure_ok h).symm⟩
  · rename_i first rest hp
    obtain ⟨_, outs, s, _, _, rfl⟩ := liftOver_ok ha
    cases eq_of_pure_ok h
    exact .inr ⟨first, rest, hp, ha⟩

theorem binary_ok {op : BinaryOp} {l r c : Compiled} (h : env.binary op l r = .ok c) :
    (∃ dominant a b o, l = .scalar a ∧ r = .scalar b ∧
      Operation.binary op a.type? b.type? = .ok o ∧
      c = env.fold (.scalar (.shortCircuit dominant a b))) ∨
    env.lift (binaryBuilder op) [l, r] = .ok c := by
  unfold Env.binary at h
  split at h
  · rename_i dominant a b _
    obtain ⟨o, ho, h⟩ := ok_of_bind h
    exact .inl ⟨dominant, a, b, o, rfl, rfl, typing_ok ho, (eq_of_pure_ok h).symm⟩
  · exact .inr h

theorem conditional_ok {test yes no : Scalar} {c : Compiled}
    (h : env.conditional test yes no = .ok c) :
    Typing.expect "if-then-else" test.type? .boolean = .ok () ∧
    ∃ type, Typing.unify "if-then-else" [yes.type?, no.type?] = .ok type ∧
      c = env.fold
        (.scalar (.conditional test (widenBranch type yes) (widenBranch type no) type)) := by
  unfold Env.conditional at h
  obtain ⟨_, ht, h⟩ := ok_of_bind h
  obtain ⟨type, hu, h⟩ := ok_of_bind h
  exact ⟨typing_ok ht, type, typing_ok hu, (eq_of_pure_ok h).symm⟩

theorem requireComponents_ok {source : Plan} {names : List String}
    (h : requireComponents source names = .ok ()) :
    ∀ n ∈ names, source.schema.contains n = true := by
  unfold requireComponents at h
  split at h
  · cases h
  · rename_i hf
    intro n hn
    simpa using List.find?_eq_none.1 hf n hn

theorem selectPlan_ok {source plan : Plan} {component : String}
    (h : selectPlan source component = .ok plan) :
    ∃ s, source.schema.project [component] true = .ok s ∧
      plan = .project source [component] true s := by
  unfold selectPlan at h
  split at h
  · cases h
  · split at h
    · cases h
    · obtain ⟨s, hp, h⟩ := ok_of_bind h
      exact ⟨s, evaluation_ok hp, (eq_of_pure_ok h).symm⟩

theorem projectPlan_ok {source plan : Plan} {names : List String} {keep : Bool}
    (h : projectPlan source names keep = .ok plan) :
    ∃ s, source.schema.project names keep = .ok s ∧ plan = .project source names keep s := by
  unfold projectPlan at h
  obtain ⟨_, _, h⟩ := ok_of_bind h
  obtain ⟨s, hp, h⟩ := ok_of_bind h
  exact ⟨s, evaluation_ok hp, (eq_of_pure_ok h).symm⟩

theorem renamePlan_ok {source plan : Plan} {pairs : List (String × String)}
    (h : renamePlan source pairs = .ok plan) :
    ∃ s, source.schema.rename pairs = .ok s ∧ plan = .rename source pairs s := by
  unfold renamePlan at h
  obtain ⟨_, _, h⟩ := ok_of_bind h
  obtain ⟨s, hp, h⟩ := ok_of_bind h
  exact ⟨s, evaluation_ok hp, (eq_of_pure_ok h).symm⟩

theorem combinePlan_ok {op : SetOp} {operands : List Plan} {plan : Plan}
    (h : combinePlan op operands = .ok plan) :
    ∃ first rest, operands = first :: rest ∧
      (∀ p ∈ rest, first.schema.compatible p.schema = true) ∧
      plan = .combine op operands first.schema := by
  unfold combinePlan at h
  split at h
  · cases h
  · rename_i first rest
    split at h
    · cases h
    · rename_i hf
      cases h
      refine ⟨first, rest, rfl, fun p hp => ?_, rfl⟩
      simpa using List.find?_eq_none.1 hf p hp

theorem calculatePlan_ok {source plan : Plan} {items : List Calculated}
    (h : calculatePlan source items = .ok plan) :
    ∃ staged assigned s, source.schema.windowed (items.filterMap (·.call)) = .ok staged ∧
      staged.calculate ((items.map (·.column)).map (·.column)) = .ok assigned ∧
      assigned.project ((items.filterMap (·.call)).map (·.target)) false = .ok s ∧
      plan = .calculate source (items.filterMap (·.call)) (items.map (·.column)) s := by
  unfold calculatePlan at h
  obtain ⟨staged, hw, h⟩ := ok_of_bind h
  obtain ⟨assigned, hc, h⟩ := ok_of_bind h
  obtain ⟨s, hp, h⟩ := ok_of_bind h
  exact ⟨staged, assigned, s, evaluation_ok hw, evaluation_ok hc, evaluation_ok hp,
    (eq_of_pure_ok h).symm⟩

theorem windowPlan_ok {source plan : Plan} {fn : WindowFunction} {extent : Extent}
    (h : windowPlan fn extent source = .ok plan) :
    ∃ calls staged s, windowCalls fn extent source source.schema.measures = .ok calls ∧
      source.schema.windowed calls = .ok staged ∧
      staged.project (attributeNames source.schema) false = .ok s ∧
      plan = .windowed source calls (attributeNames source.schema) s := by
  unfold windowPlan at h
  obtain ⟨calls, hc, h⟩ := ok_of_bind h
  obtain ⟨staged, hw, h⟩ := ok_of_bind h
  obtain ⟨s, hp, h⟩ := ok_of_bind h
  exact ⟨calls, staged, s, hc, evaluation_ok hw, evaluation_ok hp, (eq_of_pure_ok h).symm⟩

theorem expectNumeric_some_ok {operator : String} {t : ScalarType}
    (h : Typing.expectNumeric operator (some t) = .ok ()) : t.isNumeric = true := by
  unfold Typing.expectNumeric at h
  dsimp only at h
  split at h
  · assumption
  · cases h

theorem windowCall_ok {fn : WindowFunction} {component target : String} {extent : Extent}
    {source : Plan} {call : WindowCall}
    (h : windowCall fn component target extent source = .ok call) :
    fn.isImplemented = true ∧
    (∃ c, source.schema.get? component = some c ∧
      (fn.requiresNumeric = true → c.type.isNumeric = true)) ∧
    (∀ n ∈ extent.partitionBy ++ extent.orderBy.map (·.component),
      source.schema.contains n = true) ∧
    call = ⟨fn, component, target, extent.partitionBy, extent.orderBy, extent.window⟩ := by
  unfold windowCall at h
  split at h
  · rename_i hi
    split at h
    · cases h
    · rename_i c hc
      refine ⟨hi, ⟨c, hc, fun hq => ?_⟩, ?_⟩
      · rw [if_pos hq] at h
        obtain ⟨_, hn, _⟩ := ok_of_bind h
        exact expectNumeric_some_ok (typing_ok hn)
      · have ht : (do
            requireComponents source (extent.partitionBy ++ extent.orderBy.map (·.component))
            checkWindow fn source.schema extent
            return ⟨fn, component, target, extent.partitionBy, extent.orderBy, extent.window⟩) =
              Except.ok call := by
          split at h
          · obtain ⟨_, _, h⟩ := ok_of_bind h
            exact h
          · exact h
        obtain ⟨_, hr, ht⟩ := ok_of_bind ht
        obtain ⟨_, _, ht⟩ := ok_of_bind ht
        exact ⟨requireComponents_ok hr, (eq_of_pure_ok ht).symm⟩
  · cases h

theorem windowItem_ok {source : Plan} {name : String} {role : Option Role} {n : Nat}
    {fn : WindowFunction} {component : String} {extent : Extent} {item : Calculated}
    (h : windowItem source name role n fn component extent = .ok item) :
    ∃ call, windowCall fn component (scratchName n) extent source = .ok call ∧
      item = ⟨⟨name, itemRole source.schema name role, .read (scratchName n)
        (fn.result (((source.schema.get? component).map (·.type)).getD .number))⟩, some call⟩ := by
  unfold windowItem at h
  obtain ⟨call, hc, h⟩ := ok_of_bind h
  exact ⟨call, hc, (eq_of_pure_ok h).symm⟩

theorem windowCall_target (fn : WindowFunction) (component target : String) (extent : Extent)
    (source : Plan) : windowCall fn component target extent source =
      (windowCall fn component "" extent source).map fun c => { c with target := target } := by
  unfold windowCall
  cases fn.isImplemented with
  | false => rfl
  | true =>
    cases source.schema.get? component with
    | none => rfl
    | some c =>
      dsimp only
      cases fn.requiresNumeric <;> cases typing (Typing.expectNumeric fn.name c.type) <;>
        cases requireComponents source (extent.partitionBy ++ extent.orderBy.map (·.component)) <;>
        cases checkWindow fn source.schema extent <;> rfl

/-- Whether a window function can be calculated does not depend on the scratch column. -/
theorem windowItem_any {source : Plan} {name : String} {role : Option Role} {n : Nat}
    {fn : WindowFunction} {component : String} {extent : Extent} {item : Calculated}
    (h : windowItem source name role n fn component extent = .ok item) (m : Nat) :
    ∃ other, windowItem source name role m fn component extent = .ok other := by
  obtain ⟨call, hc, _⟩ := windowItem_ok h
  rw [windowCall_target] at hc
  cases hx : windowCall fn component "" extent source with
  | error e =>
    rw [hx] at hc
    cases hc
  | ok made =>
    unfold windowItem
    rw [windowCall_target, hx]
    exact ⟨_, rfl⟩

theorem checkDatapointPlan_ok {source plan : Plan} {frame : Frame} {rules : List RowRule}
    {mode : OutputMode} (h : checkDatapointPlan source frame rules mode = .ok plan) :
    ∃ s, DatapointCheck.schema ⟨rules, declaredMeasures source.schema frame, mode⟩ source.schema
        = .ok s ∧
      plan = .checkDatapoint source ⟨rules, declaredMeasures source.schema frame, mode⟩ s := by
  unfold checkDatapointPlan at h
  obtain ⟨s, hp, h⟩ := ok_of_bind h
  exact ⟨s, liftModel_ok (evaluation_ok hp), (eq_of_pure_ok h).symm⟩

theorem checkPlan_ok {condition plan : Plan} {other : Option Plan} {type : Option ScalarType}
    {c l : Scalar} {invalid : Bool} (h : checkPlan condition other type c l invalid = .ok plan) :
    ∃ s, Check.schema condition.schema type = .ok s ∧
      plan = .check condition other ⟨c, l, if invalid then .invalid else .all⟩ s := by
  unfold checkPlan at h
  obtain ⟨s, hp, h⟩ := ok_of_bind h
  exact ⟨s, liftModel_ok (evaluation_ok hp), (eq_of_pure_ok h).symm⟩

theorem checkHierarchyPlan_ok {config : Config} {source plan : Plan} {rs : HierarchicalRuleset}
    {given : Option String} {validation : ValidationMode} {input : InputMode} {output : OutputMode}
    (h : checkHierarchyPlan config source rs given validation input output = .ok plan) :
    ∃ component target s, ruleComponent rs source.schema given = .ok component ∧
      HierarchyTarget.of source.schema source.name component input = .ok target ∧
      HierarchyCheck.schema ⟨rs.rules, target,
        ⟨validation, output, config.nonNullPolicy, config.keepRuleComponent⟩⟩ source.schema
        = .ok s ∧
      plan = .checkHierarchy source ⟨rs.rules, target,
        ⟨validation, output, config.nonNullPolicy, config.keepRuleComponent⟩⟩ s := by
  unfold checkHierarchyPlan at h
  obtain ⟨component, hc, h⟩ := ok_of_bind h
  obtain ⟨target, ht, h⟩ := ok_of_bind h
  obtain ⟨s, hp, h⟩ := ok_of_bind h
  exact ⟨component, target, s, hc, evaluation_ok ht, liftModel_ok (evaluation_ok hp),
    (eq_of_pure_ok h).symm⟩

end Compile
end Tabular
