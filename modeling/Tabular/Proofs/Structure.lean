import Tabular.Proofs.Compile.Plans
import Tabular.Proofs.Compile.Soundness

set_option autoImplicit false

/-!
# Planned and computed structures

The structure of a result is derived twice: when an expression is compiled, from the structures of
its operands, and when the plan is evaluated, from the operands themselves. The main statement is
that the two agree.
-/
namespace Tabular

namespace Schema

theorem firstRepeated_of_nodup {seen names : List String} (hn : names.Nodup)
    (hs : ∀ n ∈ names, n ∉ seen) : firstRepeated seen names = none := by
  induction names generalizing seen with
  | nil => rfl
  | cons n rest ih =>
    obtain ⟨hr, hd⟩ := List.nodup_cons.1 hn
    have hc : seen.contains n = false := by simpa using hs n (List.mem_cons_self ..)
    rw [firstRepeated, hc]
    refine ih hd fun m hm hmem => ?_
    rcases List.mem_cons.1 hmem with rfl | hmem
    · exact hr hm
    · exact hs m (List.mem_cons_of_mem _ hm) hmem

theorem ofComponents_components (s : Schema) : ofComponents s.components = .ok s := by
  have hf : firstRepeated [] (s.components.map (·.name)) = none :=
    firstRepeated_of_nodup s.nodup fun _ _ hm => nomatch hm
  unfold ofComponents
  split
  · rename_i h
    rw [hf] at h
    cases h
  · rw [dif_pos s.identified]

theorem calculate_nil (s : Schema) : s.calculate [] = .ok s := by
  change liftModel (ofComponents s.components) = .ok s
  rw [ofComponents_components]
  rfl

theorem windowed_nil (s : Schema) : s.windowed [] = .ok s := s.calculate_nil

theorem project_nil (s : Schema) : s.project [] false = .ok s := by
  have hf : (s.components.filter fun c =>
      c.isIdentifier || ([] : List String).contains c.name == false) = s.components := by
    rw [List.filter_eq_self]
    intro c _
    simp
  change liftModel (ofComponents (s.components.filter _)) = .ok s
  rw [hf, ofComponents_components]
  rfl

end Schema

namespace Dataset

theorem rename_schema {d r : Dataset} {pairs : List (String × String)}
    (h : d.rename pairs = .ok r) : d.schema.rename pairs = .ok r.schema := by
  unfold rename at h
  obtain ⟨s, hs, h⟩ := ok_of_bind h
  cases eq_of_pure_ok h
  exact hs

theorem project_schema {d r : Dataset} {names : List String} {keep : Bool}
    (h : d.project names keep = .ok r) : d.schema.project names keep = .ok r.schema := by
  unfold project at h
  obtain ⟨s, hs, h⟩ := ok_of_bind h
  obtain ⟨_, _, h⟩ := ok_of_bind h
  cases eq_of_pure_ok h
  exact hs

theorem filter_schema {d r : Dataset} {condition : Scalar} {outer : Scope}
    (h : d.filter condition outer = .ok r) : r.schema = d.schema := by
  unfold filter at h
  obtain ⟨_, _, h⟩ := ok_of_bind h
  cases eq_of_pure_ok h
  rfl

theorem ofRows_eq {s : Schema} {rows : List Row} {r : Dataset} (h : ofRows s rows = .ok r) :
    r = ⟨s, rows⟩ := by
  unfold ofRows at h
  obtain ⟨_, _, h⟩ := ok_of_bind h
  exact (eq_of_pure_ok h).symm

theorem calculate_ok {d r : Dataset} {columns : List CalcColumn} {outer : Scope}
    (h : d.calculate columns outer = .ok r) :
    d.schema.calculate (columns.map (·.column)) = .ok r.schema ∧
      ∃ slots, r.schema.positions (columns.map (·.name)) = .ok slots ∧
        calculateRows d.schema columns slots r.schema.size outer d.rows = .ok r.rows := by
  unfold calculate at h
  obtain ⟨s, hs, h⟩ := ok_of_bind h
  obtain ⟨slots, hp, h⟩ := ok_of_bind h
  obtain ⟨rows, hr, h⟩ := ok_of_bind h
  have he : r = ⟨s, rows⟩ := by
    split at h
    · exact ofRows_eq (liftModel_ok h)
    · exact (eq_of_pure_ok h).symm
  subst he
  exact ⟨hs, slots, liftModel_ok hp, hr⟩

theorem windowed_schema {d r : Dataset} {calls : List WindowCall}
    (h : d.windowed calls = .ok r) : d.schema.windowed calls = .ok r.schema := by
  unfold windowed at h
  obtain ⟨s, hs, h⟩ := ok_of_bind h
  obtain ⟨_, _, h⟩ := ok_of_bind h
  obtain ⟨_, _, h⟩ := ok_of_bind h
  cases eq_of_pure_ok h
  exact hs

theorem calculateOver_schema {d r : Dataset} {calls : List WindowCall} {columns : List CalcColumn}
    {outer : Scope} {staged assigned s : Schema} (h : d.calculateOver calls columns outer = .ok r)
    (hw : d.schema.windowed calls = .ok staged)
    (hc : staged.calculate (columns.map (·.column)) = .ok assigned)
    (hp : assigned.project (calls.map (·.target)) false = .ok s) : r.schema = s := by
  unfold calculateOver at h
  split at h
  · -- Without window functions the stages that add and drop their columns are left out.
    rename_i hn
    have hn : calls = [] := List.isEmpty_iff.1 hn
    subst hn
    rw [Schema.windowed_nil] at hw
    cases hw
    rw [List.map_nil, Schema.project_nil] at hp
    cases hp
    have hr := (calculate_ok h).1
    rw [hc] at hr
    cases hr
    rfl
  · obtain ⟨w, hw', h⟩ := ok_of_bind h
    obtain ⟨a, ha, h⟩ := ok_of_bind h
    have h1 := windowed_schema hw'
    rw [hw] at h1
    cases h1
    have h2 := (calculate_ok ha).1
    rw [hc] at h2
    cases h2
    have h3 := project_schema h
    rw [hp] at h3
    cases h3
    rfl

theorem windowedOver_schema {d r : Dataset} {calls : List WindowCall} {attributes : List String}
    {staged s : Schema} (h : d.windowedOver calls attributes = .ok r)
    (hw : d.schema.windowed calls = .ok staged) (hp : staged.project attributes false = .ok s) :
    r.schema = s := by
  unfold windowedOver at h
  obtain ⟨w, hw', h⟩ := ok_of_bind h
  have h1 := windowed_schema hw'
  rw [hw] at h1
  cases h1
  split at h
  · rename_i hn
    rw [List.isEmpty_iff.1 hn, Schema.project_nil] at hp
    cases hp
    cases eq_of_pure_ok h
    rfl
  · have h2 := project_schema h
    rw [hp] at h2
    cases h2
    rfl

end Dataset

theorem MeasureMap.evaluate_ok {m : MeasureMap} {today : Date} {operands : List Operand}
    {e : Dataset} (h : m.evaluate today operands = .ok e) :
    m.schema = .ok e.schema ∧ ∃ first sides columns leading,
      operands.findSome? Operand.dataset? = some first ∧
      MeasureMap.sides (m.identifiers.map (·.name)) false operands = .ok sides ∧
      outputColumns operands m.outputs = .ok columns ∧
      first.schema.positions (m.identifiers.map (·.name)) = .ok leading ∧
      rows today sides leading (m.outputs.zip columns) first.rows = .ok e.rows := by
  unfold MeasureMap.evaluate at h
  obtain ⟨s, hs, h⟩ := ok_of_bind h
  split at h
  · cases h
  · rename_i first hf
    obtain ⟨ss, hss, h⟩ := ok_of_bind h
    obtain ⟨columns, hc, h⟩ := ok_of_bind h
    obtain ⟨leading, hl, h⟩ := ok_of_bind h
    obtain ⟨out, hr, h⟩ := ok_of_bind h
    cases eq_of_pure_ok h
    exact ⟨liftModel_ok hs, first, ss, columns, leading, hf, liftModel_ok hss, liftModel_ok hc,
      liftModel_ok hl, hr⟩

theorem MeasureMap.evaluate_eq_rows {m : MeasureMap} {operands : List Operand} {s : Schema}
    {first : Dataset} {sides : List Side} {columns : List (List (Option Nat))}
    {leading : List Nat} (hs : m.schema = .ok s)
    (hf : operands.findSome? Operand.dataset? = some first)
    (hss : MeasureMap.sides (m.identifiers.map (·.name)) false operands = .ok sides)
    (hc : outputColumns operands m.outputs = .ok columns)
    (hl : first.schema.positions (m.identifiers.map (·.name)) = .ok leading) (today : Date) :
    m.evaluate today operands = do
      let out ← rows today sides leading (m.outputs.zip columns) first.rows
      return ⟨s, out⟩ := by
  unfold evaluate
  rw [hs, hf]
  change liftModel (MeasureMap.sides (m.identifiers.map (·.name)) false operands) >>= _ = _
  rw [hss]
  change liftModel (outputColumns operands m.outputs) >>= _ = _
  rw [hc]
  change liftModel (first.schema.positions (m.identifiers.map (·.name))) >>= _ = _
  rw [hl]
  rfl

theorem MeasureMap.evaluate_schema {m : MeasureMap} {today : Date} {operands : List Operand}
    {r : Dataset} (h : m.evaluate today operands = .ok r) : m.schema = .ok r.schema :=
  (evaluate_ok h).1

theorem SetOp.evaluate_schema {op : SetOp} {first : Dataset} {rest : List Dataset} {r : Dataset}
    (h : op.evaluate (first :: rest) = .ok r) : r.schema = first.schema := by
  unfold SetOp.evaluate at h
  obtain ⟨_, _, h⟩ := ok_of_bind h
  obtain ⟨_, _, h⟩ := ok_of_bind h
  cases eq_of_pure_ok h
  rfl

theorem DatapointCheck.evaluate_schema {c : DatapointCheck} {outer : Scope} {d r : Dataset}
    (h : c.evaluate outer d = .ok r) : c.schema d.schema = .ok r.schema := by
  unfold DatapointCheck.evaluate at h
  obtain ⟨s, hs, h⟩ := ok_of_bind h
  obtain ⟨_, _, h⟩ := ok_of_bind h
  cases eq_of_pure_ok h
  exact liftModel_ok hs

theorem HierarchyCheck.evaluate_schema {c : HierarchyCheck} {d r : Dataset}
    (h : c.evaluate d = .ok r) : c.schema d.schema = .ok r.schema := by
  unfold HierarchyCheck.evaluate at h
  obtain ⟨s, hs, h⟩ := ok_of_bind h
  obtain ⟨_, _, h⟩ := ok_of_bind h
  cases eq_of_pure_ok h
  exact liftModel_ok hs

theorem Check.evaluate_schema {c : Check} {outer : Scope} {d r : Dataset} {other : Option Dataset}
    (h : c.evaluate outer d other = .ok r) :
    ∃ type, Check.imbalanceType other = .ok type ∧ Check.schema d.schema type = .ok r.schema := by
  unfold Check.evaluate at h
  obtain ⟨type, ht, h⟩ := ok_of_bind h
  obtain ⟨s, hs, h⟩ := ok_of_bind h
  obtain ⟨_, _, h⟩ := ok_of_bind h
  cases eq_of_pure_ok h
  exact ⟨type, ht, liftModel_ok hs⟩

/-- What a compiled dataset expression evaluates to has the structure it was given in advance. -/
def Compiled.Agrees (c : Context) (today : Date) : Compiled → Prop
  | .scalar _ => True
  | .dataset p => ∀ d, p.eval c today = .ok d → d.schema = p.schema

namespace Compile

variable {env : Env} {today : Date}

theorem agrees_fold (e : Scalar) : (env.fold (.scalar e)).Agrees env.context today := trivial

theorem agrees_name {f : Frame} {n : String} {c : Compiled} (h : env.name f n = .ok c) :
    c.Agrees env.context today := by
  rcases name_ok h with ⟨_, _, _, rfl⟩ | ⟨_, _, _, rfl⟩ | ⟨d, hd, rfl⟩
  · trivial
  · trivial
  · intro r hr
    rw [Plan.eval_named hd] at hr
    cases hr
    rfl

theorem agrees_lift {build : Builder} {operands : List Compiled} {c : Compiled}
    (h : env.lift build operands = .ok c) : c.Agrees env.context today := by
  rcases lift_ok h with ⟨_, op, _, rfl⟩ | ⟨first, rest, _, h⟩
  · exact agrees_fold _
  · obtain ⟨_, outs, s, _, hs, rfl⟩ := liftOver_ok h
    intro r hr
    rw [Plan.eval] at hr
    obtain ⟨values, _, hr⟩ := ok_of_bind hr
    have hm := MeasureMap.evaluate_schema hr
    rw [hs] at hm
    cases hm
    rfl

theorem agrees_binary {op : BinaryOp} {l r c : Compiled} (h : env.binary op l r = .ok c) :
    c.Agrees env.context today := by
  rcases binary_ok h with ⟨_, _, _, _, _, _, _, rfl⟩ | h
  · exact agrees_fold _
  · exact agrees_lift h

theorem agrees_conditional {test yes no : Scalar} {c : Compiled}
    (h : env.conditional test yes no = .ok c) : c.Agrees env.context today := by
  obtain ⟨_, _, _, rfl⟩ := conditional_ok h
  exact agrees_fold _

theorem agrees_project {source : Plan} {names : List String} {keep : Bool} {s : Schema}
    (hs : (Compiled.dataset source).Agrees env.context today)
    (h : source.schema.project names keep = .ok s) :
    (Compiled.dataset (.project source names keep s)).Agrees env.context today := by
  intro r hr
  rw [Plan.eval] at hr
  obtain ⟨d, hd, hr⟩ := ok_of_bind hr
  have hp := Dataset.project_schema hr
  rw [hs d hd, h] at hp
  cases hp
  rfl

theorem agrees_rename {source : Plan} {pairs : List (String × String)} {s : Schema}
    (hs : (Compiled.dataset source).Agrees env.context today)
    (h : source.schema.rename pairs = .ok s) :
    (Compiled.dataset (.rename source pairs s)).Agrees env.context today := by
  intro r hr
  rw [Plan.eval] at hr
  obtain ⟨d, hd, hr⟩ := ok_of_bind hr
  have hn := Dataset.rename_schema hr
  rw [hs d hd, h] at hn
  cases hn
  rfl

theorem agrees_filter {source : Plan} {c : Scalar}
    (hs : (Compiled.dataset source).Agrees env.context today) :
    (Compiled.dataset (.filter source c)).Agrees env.context today := by
  intro r hr
  rw [Plan.eval] at hr
  obtain ⟨d, hd, hr⟩ := ok_of_bind hr
  exact (Dataset.filter_schema hr).trans (hs d hd)

theorem agrees_calculate {source plan : Plan} {items : List Calculated}
    (hs : (Compiled.dataset source).Agrees env.context today)
    (h : calculatePlan source items = .ok plan) :
    (Compiled.dataset plan).Agrees env.context today := by
  obtain ⟨staged, assigned, s, hw, hc, hp, rfl⟩ := calculatePlan_ok h
  intro r hr
  rw [Plan.eval] at hr
  obtain ⟨d, hd, hr⟩ := ok_of_bind hr
  rw [← hs d hd] at hw
  exact Dataset.calculateOver_schema hr hw hc hp

theorem agrees_window {source plan : Plan} {fn : WindowFunction} {extent : Extent}
    (hs : (Compiled.dataset source).Agrees env.context today)
    (h : windowPlan fn extent source = .ok plan) :
    (Compiled.dataset plan).Agrees env.context today := by
  obtain ⟨calls, staged, s, _, hw, hp, rfl⟩ := windowPlan_ok h
  intro r hr
  rw [Plan.eval] at hr
  obtain ⟨d, hd, hr⟩ := ok_of_bind hr
  rw [← hs d hd] at hw
  exact Dataset.windowedOver_schema hr hw hp

theorem agrees_combine {op : SetOp} {plans : List Plan} {plan : Plan}
    (hs : ∀ p ∈ plans, (Compiled.dataset p).Agrees env.context today)
    (h : combinePlan op plans = .ok plan) :
    (Compiled.dataset plan).Agrees env.context today := by
  obtain ⟨first, rest, rfl, _, rfl⟩ := combinePlan_ok h
  intro r hr
  rw [Plan.eval, Plan.evalAll] at hr
  obtain ⟨ds, hds, hr⟩ := ok_of_bind hr
  obtain ⟨d, hd, hds⟩ := ok_of_bind hds
  obtain ⟨others, _, hds⟩ := ok_of_bind hds
  cases eq_of_pure_ok hds
  exact (SetOp.evaluate_schema hr).trans (hs first (List.mem_cons_self ..) d hd)

theorem agrees_checkDatapoint {source plan : Plan} {frame : Frame} {rules : List RowRule}
    {mode : OutputMode} (hs : (Compiled.dataset source).Agrees env.context today)
    (h : checkDatapointPlan source frame rules mode = .ok plan) :
    (Compiled.dataset plan).Agrees env.context today := by
  obtain ⟨s, hp, rfl⟩ := checkDatapointPlan_ok h
  intro r hr
  rw [Plan.eval] at hr
  obtain ⟨d, hd, hr⟩ := ok_of_bind hr
  have hn := DatapointCheck.evaluate_schema hr
  rw [hs d hd, hp] at hn
  cases hn
  rfl

theorem imbalanceType_agrees {other : Option Plan} {value : Option Dataset}
    {planned found : Option ScalarType}
    (hs : ∀ p, other = some p → (Compiled.dataset p).Agrees env.context today)
    (hp : imbalanceType other = .ok planned)
    (hv : Plan.evalOption env.context today other = .ok value)
    (hf : Check.imbalanceType value = .ok found) : found = planned := by
  cases other with
  | none =>
    cases hp
    cases hv
    cases hf
    rfl
  | some p =>
    obtain ⟨m, hm, hp⟩ := ok_of_bind hp
    obtain ⟨d, hd, hv⟩ := ok_of_bind hv
    cases eq_of_pure_ok hv
    obtain ⟨n, hn, hf⟩ := ok_of_bind hf
    rw [hs p rfl d hd] at hn
    -- The two look-ups differ in the name of the dataset, which shows only in errors.
    have h1 := (Check.soleMeasure_ok (evaluation_ok hm)).1
    have h2 := (Check.soleMeasure_ok hn).1
    rw [h1] at h2
    cases h2
    exact (eq_of_pure_ok hf).symm.trans (eq_of_pure_ok hp)

theorem agrees_check {condition plan : Plan} {other : Option Plan} {type : Option ScalarType}
    {c l : Scalar} {invalid : Bool}
    (hs : (Compiled.dataset condition).Agrees env.context today)
    (ho : ∀ p, other = some p → (Compiled.dataset p).Agrees env.context today)
    (ht : imbalanceType other = .ok type)
    (h : checkPlan condition other type c l invalid = .ok plan) :
    (Compiled.dataset plan).Agrees env.context today := by
  obtain ⟨s, hp, rfl⟩ := checkPlan_ok h
  intro r hr
  rw [Plan.eval] at hr
  obtain ⟨d, hd, hr⟩ := ok_of_bind hr
  obtain ⟨value, hv, hr⟩ := ok_of_bind hr
  obtain ⟨found, hf, hn⟩ := Check.evaluate_schema hr
  rw [hs d hd, imbalanceType_agrees ho ht hv hf, hp] at hn
  cases hn
  rfl

theorem agrees_checkHierarchy {config : Config} {source plan : Plan} {rs : HierarchicalRuleset}
    {given : Option String} {validation : ValidationMode} {input : InputMode} {output : OutputMode}
    (hs : (Compiled.dataset source).Agrees env.context today)
    (h : checkHierarchyPlan config source rs given validation input output = .ok plan) :
    (Compiled.dataset plan).Agrees env.context today := by
  obtain ⟨component, target, s, _, _, hp, rfl⟩ := checkHierarchyPlan_ok h
  intro r hr
  rw [Plan.eval] at hr
  obtain ⟨d, hd, hr⟩ := ok_of_bind hr
  have hn := HierarchyCheck.evaluate_schema hr
  rw [hs d hd, hp] at hn
  cases hn
  rfl

/-- One case for each node; only the nodes that pass a structure on use the induction. -/
theorem Compiles.agrees {f : Frame} {e : Expr} {c : Compiled} (h : Compiles env f e c)
    (today : Date) : c.Agrees env.context today := by
  induction h with
  | literal => trivial
  | name h => exact agrees_name h
  | unary _ h => exact agrees_lift h
  | binary _ _ h => exact agrees_binary h
  | conditional _ _ _ h => exact agrees_conditional h
  | cast _ h => exact agrees_lift h
  | call _ _ h => exact agrees_lift h
  | member _ h => exact agrees_lift h
  | select _ h ih =>
    obtain ⟨s, hp, rfl⟩ := selectPlan_ok h
    exact agrees_project ih hp
  | filter _ _ _ ih => exact agrees_filter ih
  | keep _ h ih =>
    obtain ⟨s, hp, rfl⟩ := projectPlan_ok h
    exact agrees_project ih hp
  | drop _ h ih =>
    obtain ⟨s, hp, rfl⟩ := projectPlan_ok h
    exact agrees_project ih hp
  | rename _ h ih =>
    obtain ⟨s, hp, rfl⟩ := renamePlan_ok h
    exact agrees_rename ih hp
  | calculate _ _ _ h ih => exact agrees_calculate ih h
  | combine _ hlen _ h ih =>
    refine agrees_combine (fun p hp => ?_) h
    obtain ⟨e, he⟩ := exists_mem_zip hlen hp
    exact ih e p he
  | window _ h ih => exact agrees_window ih h
  | checkDatapoint _ _ _ _ _ h ih => exact agrees_checkDatapoint ih h
  | check _ _ hsome _ htype _ _ _ _ h ih iho =>
    refine agrees_check ih (fun q hq => ?_) htype h
    rw [hq] at hsome
    obtain ⟨i, hi⟩ := Option.isSome_iff_exists.1 hsome
    exact iho i q hi hq
  | checkHierarchy _ _ h ih => exact agrees_checkHierarchy ih h

/-- The structure known in advance is the structure of the result: the same components, with name,
    type, role and value domain, in the same order. -/
theorem schema_of_compile {env : Env} {e : Expr} {p : Plan} (h : compile env e = .ok (.dataset p))
    {today : Date} {d : Dataset} (hd : p.eval env.context today = .ok d) :
    d.schema = p.schema :=
  (compile_compiles h).agrees today d hd

end Compile

def tally : Dataset where
  schema := ⟨[.identifier "k" .integer, .measure "m" .integer], by decide, by decide⟩
  rows := [[.integer 1, .integer 5], [.integer 2, .integer 7]]

def tallySum : Expr :=
  .calculate {} (.name {} "D") [.mk "s" none (.window {} .sum (.name {} "m") {})]

set_option maxRecDepth 4000 in
theorem Compile.schema_of_compile_tallySum :
    ∃ p d, compile ⟨⟨[("D", .dataset tally)]⟩, {}⟩ tallySum = .ok (.dataset p) ∧
      p.eval ⟨[("D", .dataset tally)]⟩ .epoch = .ok d ∧ d.schema.names = ["k", "m", "s"] ∧
      d.schema = p.schema := by
  refine ⟨_, _, rfl, rfl, rfl, ?_⟩
  exact @schema_of_compile ⟨⟨[("D", .dataset tally)]⟩, {}⟩ tallySum _ rfl .epoch _ rfl

end Tabular
