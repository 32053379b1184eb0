import Tabular.Proofs.Compile.Bound
import Tabular.Proofs.Locality
import Tabular.Proofs.Safety
import Tabular.Proofs.Stages

set_option autoImplicit false

/-!
# What a calculation changes

A calculation keeps the rows and every component that no item names, and gives each item what its
expression gives on the rows of the source. Window functions pass through scratch columns on the
way, which are dropped in the end; the statement holds if and only if neither a component of the
source nor an item has the name of one.
-/
namespace Tabular

def CalcItem.name : CalcItem → String
  | .mk name _ _ => name

def CalcItem.expr : CalcItem → Expr
  | .mk _ _ e => e

def CalcItem.isAnalytic : CalcItem → Bool
  | .mk _ _ (.window _ _ _ _) => true
  | _ => false

def Extent.call (extent : Extent) (fn : WindowFunction) (component : String) : WindowCall :=
  ⟨fn, component, component, extent.partitionBy, extent.orderBy, extent.window⟩

namespace Compile

variable {env : Env} {f : Frame} {source : Plan}

/-- An expression becomes one thing only. -/
theorem Compiles.unique {e : Expr} {c c' : Compiled} (h : Compiles env f e c)
    (h' : Compiles env f e c') : c = c' :=
  Except.ok.inj (h.unbounded_ok.symm.trans h'.unbounded_ok)

section
variable {n : Nat} {items : List CalcItem} {bodies : List (Expr × Scalar)}
  {calculated : List Calculated}

theorem Items.names (h : Items source n items bodies calculated) :
    (calculated.map (·.column)).map (·.name) = items.map CalcItem.name := by
  induction h with
  | nil => rfl
  | window _ hitem _ ih =>
    obtain ⟨call, _, rfl⟩ := windowItem_ok hitem
    rw [List.map_cons, List.map_cons, List.map_cons, ih]
    rfl
  | plain _ _ _ ih =>
    rw [List.map_cons, List.map_cons, List.map_cons, ih]
    rfl

theorem Items.targets_eq (h : Items source n items bodies calculated) :
    (calculated.filterMap (·.call)).map (·.target) =
      (List.range' n (items.countP CalcItem.isAnalytic)).map scratchName := by
  induction h with
  | nil => rfl
  | window _ hitem _ ih =>
    obtain ⟨call, hcall, rfl⟩ := windowItem_ok hitem
    obtain ⟨_, _, _, rfl⟩ := windowCall_ok hcall
    rw [List.countP_cons_of_pos rfl, List.range'_succ, List.map_cons, ← ih]
    rfl
  | @plain _ _ _ e _ _ _ _ _ hplain _ ih =>
    rw [List.countP_cons_of_neg, ← ih]
    · rfl
    · cases e <;> first | exact Bool.false_ne_true | exact absurd rfl (hplain _ _ _ _)

theorem Items.exists_column (h : Items source n items bodies calculated) {item : CalcItem}
    (hi : item ∈ items) :
    ∃ col ∈ calculated.map (·.column), col.name = item.name ∧
      ((item.expr, col.expression) ∈ bodies ∨
        ∃ p fn q component extent target t,
          item.expr = .window p fn (.name q component) extent ∧
          { extent.call fn component with target } ∈ calculated.filterMap (·.call) ∧
          col.expression = .read target t) := by
  induction h with
  | nil => cases hi
  | window _ hitem _ ih =>
    obtain ⟨call, hcall, rfl⟩ := windowItem_ok hitem
    obtain ⟨_, _, _, rfl⟩ := windowCall_ok hcall
    rcases List.mem_cons.1 hi with rfl | hi
    · exact ⟨_, List.mem_cons_self .., rfl,
        .inr ⟨_, _, _, _, _, _, _, rfl, List.mem_cons_self .., rfl⟩⟩
    · obtain ⟨col, hcol, hname, hexpr⟩ := ih hi
      refine ⟨col, List.mem_cons_of_mem _ hcol, hname, hexpr.imp id ?_⟩
      rintro ⟨p, fn, q, component, extent, target, t, hx, hmem, hread⟩
      exact ⟨p, fn, q, component, extent, target, t, hx, List.mem_cons_of_mem _ hmem, hread⟩
  | plain _ _ _ ih =>
    rcases List.mem_cons.1 hi with rfl | hi
    · exact ⟨_, List.mem_cons_self .., rfl, .inl (List.mem_cons_self ..)⟩
    · obtain ⟨col, hcol, hname, hexpr⟩ := ih hi
      exact ⟨col, List.mem_cons_of_mem _ hcol, hname, hexpr.imp (List.mem_cons_of_mem _) id⟩

end

/-- What an expression gives on row number `i` of a dataset: its value in the row, or the result of
    a window function for the row. -/
inductive Gives (env : Env) (today : Date) (d : Dataset) (i : Nat) (r : Row) : Expr → Value → Prop
  | plain {e : Expr} {s : Scalar} {v : Value}
      (hs : Compiles env (Frame.ofSchema d.schema) e (.scalar s))
      (hv : s.eval (Scope.ofRow d.schema r (env.context.scope today)) = .ok v) :
      Gives env today d i r e v
  | analytic {p q : Position} {fn : WindowFunction} {component : String} {extent : Extent}
      {vs : List Value} {v : Value}
      (hvs : Window.evaluate d.rows d.schema (extent.call fn component) = .ok vs)
      (hv : vs[i]? = some v) :
      Gives env today d i r (.window p fn (.name q component) extent) v

/-- The result holds the source with the items in it: components that no item names are as they
    were, each item has its component and in every row what its expression gives on the source, and
    nothing else is there. -/
structure Calculates (env : Env) (today : Date) (items : List CalcItem) (d e : Dataset) : Prop where
  kept : ∀ c ∈ d.schema.components, c.name ∉ items.map CalcItem.name → c ∈ e.schema.components
  made : ∀ n ∈ items.map CalcItem.name, n ∈ e.schema.names
  only : ∀ n ∈ e.schema.names, n ∈ d.schema.names ∨ n ∈ items.map CalcItem.name
  unchanged : Dataset.Rowwise (fun _ r q => ∀ n ∈ d.schema.names,
    n ∉ items.map CalcItem.name → e.schema.read q n = d.schema.read r n) d e
  given : Dataset.Rowwise (fun i r q => ∀ item ∈ items,
    Gives env today d i r item.expr (e.schema.read q item.name)) d e

/-- No component and no item has the name of a scratch column that the items need. -/
def Unscratched (s : Schema) (items : List CalcItem) : Prop :=
  ∀ k < items.countP CalcItem.isAnalytic,
    scratchName k ∉ s.names ∧ scratchName k ∉ items.map CalcItem.name

section
variable {today : Date} {d e : Dataset} {items : List CalcItem} {bodies : List (Expr × Scalar)}
  {calculated : List Calculated}

theorem Items.unscratched_iff (h : Items source 0 items bodies calculated) {s : Schema} :
    Unscratched s items ↔ ∀ n ∈ (calculated.filterMap (·.call)).map (·.target),
      n ∉ s.names ∧ n ∉ items.map CalcItem.name := by
  rw [h.targets_eq, List.forall_mem_map]
  simp only [Unscratched, List.mem_range'_1, Nat.zero_le, Nat.zero_add, true_and]

theorem eval_overlaid {s : Scalar} {x : Expr} {staged : Schema} {r m : Row} {outer : Scope}
    (hs : Compiles env (Frame.ofSchema d.schema) x (.scalar s))
    (hkept : d.schema.names ⊆ staged.names)
    (hread : ∀ n ∈ d.schema.names, staged.read m n = d.schema.read r n) :
    s.eval (Scope.ofRow staged m outer) = s.eval (Scope.ofRow d.schema r outer) := by
  refine s.eval_of_reads rfl fun n t hr => ?_
  obtain ⟨c, hc, rfl, _⟩ := Frame.declares_of_ofSchema (hs.reads n t hr)
  have hn : c.name ∈ d.schema.names := Schema.mem_names.2 ⟨c, hc, rfl⟩
  rw [Scope.ofRow_lookup hn, Scope.ofRow_lookup (hkept hn), hread c.name hn]

/-- What a row with scratch columns leaves for an item is what its expression gives on the source. -/
theorem Items.gives (h : Items source 0 items bodies calculated)
    (hbodies : ∀ x s, (x, s) ∈ bodies → Compiles env (Frame.ofSchema d.schema) x (.scalar s))
    {staged : Schema} (hsource : d.schema.names ⊆ staged.names)
    (htargets : ∀ c ∈ calculated.filterMap (·.call), c.target ∈ staged.names)
    (hclear : ∀ n ∈ (calculated.filterMap (·.call)).map (·.target),
      n ∉ d.schema.names ∧ n ∉ items.map CalcItem.name) {i : Nat} {r m q : Row}
    (hm : Dataset.Overlaid d e staged (calculated.filterMap (·.call)) (calculated.map (·.column))
      (env.context.scope today) i r m q) {item : CalcItem} (hi : item ∈ items) :
    Gives env today d i r item.expr (e.schema.read q item.name) := by
  obtain ⟨col, hcol, hname, hexpr⟩ := h.exists_column hi
  have hv := hm.values col hcol fun ht => (hclear _ ht).2 (hname ▸ List.mem_map.2 ⟨item, hi, rfl⟩)
  rw [hname] at hv
  rcases hexpr with hbody | ⟨p, fn, q', component, extent, target, t, hwindow, hcall, hread⟩
  · have hs := hbodies _ _ hbody
    have hsame : ∀ n ∈ d.schema.names, staged.read m n = d.schema.read r n :=
      fun n hn => hm.source n hn fun ht => (hclear n ht).1 hn
    rw [eval_overlaid hs hsource hsame] at hv
    exact .plain hs hv
  · obtain ⟨vs, hvs, hi⟩ := hm.results _ hcall
    have hlookup := Scope.ofRow_lookup (htargets _ hcall) m (env.context.scope today)
    rw [hread, Scalar.eval, hlookup] at hv
    rw [Window.evaluate_target] at hvs
    rw [hwindow]
    exact .analytic hvs (hi.trans (congrArg some (Except.ok.inj hv)))

theorem windowed_names {calls : List WindowCall} {s staged : Schema}
    (h : s.windowed calls = .ok staged) :
    s.names ⊆ staged.names ∧ ∀ c ∈ calls, c.target ∈ staged.names := by
  obtain ⟨cols, hcols, hwindow⟩ := Schema.windowed_ok h
  refine ⟨(Schema.calculate_names hwindow).subset, fun c hc => ?_⟩
  refine Schema.calculate_contains hwindow _ ?_
  rw [Schema.windowColumns_names hcols]
  exact List.mem_map.2 ⟨c, hc, rfl⟩

/-- The components after the stages of a calculation. -/
theorem calculated_names {calls : List WindowCall} {cols : List Schema.Column}
    {s staged assigned t : Schema} (hw : s.windowed calls = .ok staged)
    (ha : staged.calculate cols = .ok assigned)
    (hp : assigned.project (calls.map (·.target)) false = .ok t) :
    (∀ n ∈ t.names, n ∈ s.names ∨ n ∈ cols.map (·.name)) ∧
      (∀ n ∈ cols.map (·.name), n ∉ calls.map (·.target) → n ∈ t.names) ∧
      ∀ c ∈ s.components, c.name ∉ cols.map (·.name) → c.name ∉ calls.map (·.target) →
        c ∈ t.components := by
  obtain ⟨wcols, hcols, hwindow⟩ := Schema.windowed_ok hw
  have hnames := Schema.windowColumns_names hcols
  refine ⟨fun n hn => ?_, fun n hn ht => ?_, fun c hc hcol ht => ?_⟩
  · obtain ⟨hn, ht⟩ := (Schema.project_drop_names hp).1 hn
    rcases Schema.assign_names_subset (Schema.calculate_ok ha) n hn with hn | hn
    · rcases Schema.assign_names_subset (Schema.calculate_ok hwindow) n hn with hn | hn
      · exact .inl hn
      · exact absurd (hnames ▸ hn) ht
    · exact .inr hn
  · exact (Schema.project_drop_names hp).2 ⟨Schema.calculate_contains ha n hn, ht⟩
  · refine (Schema.project_drop_mem hp).2 ⟨?_, ht⟩
    rw [← hnames] at ht
    exact Schema.assign_mem (Schema.calculate_ok ha)
      (Schema.assign_mem (Schema.calculate_ok hwindow) hc ht) hcol

/-- A calculation gives what its items say if and only if no scratch column is in the way. -/
theorem calculates_iff {p : Position} {x : Expr} {plan : Plan}
    (h : Compiles env f (.calculate p x items) (.dataset plan))
    (hx : Compiles env f x (.dataset source)) (hd : source.eval env.context today = .ok d)
    (he : plan.eval env.context today = .ok e) (hn : (items.map CalcItem.name).Nodup) :
    Calculates env today items d e ↔ Unscratched d.schema items := by
  cases h with
  | @calculate _ _ _ _ bodies calculated source' _ hx' hitems hbodies hplan =>
  cases hx.unique hx'
  have hschema : d.schema = source.schema := hx.agrees today d hd
  rw [← hschema] at hbodies
  obtain ⟨_, _, _, _, _, _, rfl⟩ := calculatePlan_ok hplan
  rw [Plan.eval, hd] at he
  have hnames : (calculated.map (·.column)).map (·.name) = items.map CalcItem.name := hitems.names
  obtain ⟨staged, assigned, hw, ha, hp, hrows⟩ :=
    Dataset.calculateOver_ok he hitems.targets_nodup (hnames ▸ hn)
  obtain ⟨honly, hmade, hkept⟩ := calculated_names hw ha hp
  rw [Dataset.columns_names, hnames] at honly hmade hkept
  rw [hitems.unscratched_iff]
  constructor
  · intro hc n ht
    have hitem : n ∉ items.map CalcItem.name := fun hi =>
      ((Schema.project_drop_names hp).1 (hc.made n hi)).2 ht
    refine ⟨fun hs => ?_, hitem⟩
    obtain ⟨c, hmem, rfl⟩ := Schema.mem_names.1 hs
    exact ((Schema.project_drop_mem hp).1 (hc.kept c hmem hitem)).2 ht
  · intro hclear
    obtain ⟨hstaged, htargets⟩ := windowed_names hw
    have hsource : ∀ n ∈ d.schema.names, n ∉ (calculated.filterMap (·.call)).map (·.target) :=
      fun n hn ht => (hclear n ht).1 hn
    refine ⟨fun c hc hnot => ?_, fun n hn => hmade n hn fun ht => (hclear n ht).2 hn, honly,
      hrows.imp ?_, hrows.imp ?_⟩
    · exact hkept c hc hnot (hsource c.name (Schema.mem_names.2 ⟨c, hc, rfl⟩))
    · rintro i r q ⟨m, hm⟩ n hn hnot
      rw [hm.kept n (hstaged hn) (hnames ▸ hnot) (hsource n hn), hm.source n hn (hsource n hn)]
    · rintro i r q ⟨m, hm⟩ item hi
      exact hitems.gives hbodies hstaged htargets hclear hm hi

end

theorem unscratched_of_head {s : Schema} {items : List CalcItem}
    (hs : ∀ n ∈ s.names, n.toList.head? ≠ some '$')
    (hi : ∀ n ∈ items.map CalcItem.name, n.toList.head? ≠ some '$') : Unscratched s items :=
  fun k _ => ⟨fun hn => scratchName_ne (hs _ hn) k rfl, fun hn => scratchName_ne (hi _ hn) k rfl⟩

theorem calculates_iff_tallyCopy :
    ∃ plan e, compile tallyEnv tallyCopy = .ok (.dataset plan) ∧
      plan.eval tallyEnv.context .epoch = .ok e ∧
      Calculates tallyEnv .epoch
        [.mk "s" none (.window {} .sum (.name {} "m") {}), .mk "t" none (.name {} "m")]
        tally e := by
  have hrun : ∃ plan e, compile tallyEnv tallyCopy = .ok (.dataset plan) ∧
      plan.eval tallyEnv.context .epoch = .ok e := ⟨_, _, rfl, rfl⟩
  obtain ⟨plan, e, hp, he⟩ := hrun
  have hd : Compiles tallyEnv [] (.name {} "D") (.dataset (.named "D" tally.schema)) := .name rfl
  refine ⟨plan, e, hp, he, (calculates_iff (compile_compiles hp) hd rfl he ?_).2 ?_⟩
  · decide
  · exact unscratched_of_head (by decide) (by decide)

def shadowSum : Expr :=
  .calculate {} (.name {} "Q") [.mk "y" none (.window {} .sum (.name {} "m") {})]

/-- The sum is written over that measure, which is dropped. -/
theorem not_calculates_shadowSum :
    shadow.Conforms ∧ shadow.Distinct ∧ ∃ plan e,
      compile shadowEnv shadowSum = .ok (.dataset plan) ∧
        plan.eval shadowEnv.context .epoch = .ok e ∧ e.schema.names = ["k", "m", "y"] ∧
        ¬ Calculates shadowEnv .epoch [.mk "y" none (.window {} .sum (.name {} "m") {})]
          shadow e := by
  refine ⟨?_, ?_, _, _, rfl, rfl, rfl, fun h => ?_⟩
  · unfold Dataset.Conforms Schema.Admits Conform
    decide
  · unfold Dataset.Distinct
    decide
  · have hkept := h.kept (.measure "$analytic_0" .string) (by decide) (by decide)
    exact absurd hkept (by decide)

end Compile
end Tabular
