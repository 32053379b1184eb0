import Tabular.Proofs.Order.Checks

set_option autoImplicit false

/-!
# Rows shared out

An operation that treats every row on its own can be carried out on consecutive parts of the rows,
each by itself. Nothing is carried from row to row, so whether a part succeeds, what it gives and
with which error it fails do not depend on the other parts. However the rows are shared out, the
results put together in order are the result for all rows.
-/
namespace Tabular.Dataset

def inTurn (front back : Except EvalError Dataset) : Except EvalError Dataset := do
  let d ← front
  let e ← back
  return ⟨d.schema, d.rows ++ e.rows⟩

/-- How rows are shared out: they stay together, or they are cut after the first `n` and both parts
    are shared out in turn. -/
inductive Division where
  | whole
  | cut (n : Nat) (front back : Division)

def Division.run (f : List Row → Except EvalError Dataset) :
    Division → List Row → Except EvalError Dataset
  | .whole, rows => f rows
  | .cut n front back, rows => inTurn (front.run f (rows.take n)) (back.run f (rows.drop n))

/-- Wherever the rows are cut in two, the operation succeeds if and only if it succeeds on both
    parts, with the structure that both have and the rows of the one after those of the other; it
    fails as the first part does that fails. So the rows can be shared out in any way. -/
structure Divisible (f : List Row → Except EvalError Dataset) : Prop where
  succeeds : ∀ front back e, f (front ++ back) = .ok e ↔ ∃ a b, f front = .ok a ∧ f back = .ok b ∧
    a.schema = e.schema ∧ b.schema = e.schema ∧ a.rows ++ b.rows = e.rows
  fails : ∀ front back err, f (front ++ back) = .error err ↔
    f front = .error err ∨ (∃ a, f front = .ok a) ∧ f back = .error err
  shared : ∀ (w : Division) rows, w.run f rows = f rows

section
variable {f : List Row → Except EvalError Dataset}

theorem Division.run_eq (hcut : ∀ front back, f (front ++ back) = inTurn (f front) (f back))
    (w : Division) (rows : List Row) : w.run f rows = f rows := by
  induction w generalizing rows with
  | whole => rfl
  | cut n front back ihf ihb => rw [run, ihf, ihb, ← hcut, List.take_append_drop]

theorem Divisible.of_cut (hcut : ∀ front back, f (front ++ back) = inTurn (f front) (f back))
    (hschema : ∀ front back a b, f front = .ok a → f back = .ok b → b.schema = a.schema) :
    Divisible f where
  succeeds front back e := by
    rw [hcut]
    constructor
    · intro h
      obtain ⟨a, ha, h⟩ := ok_of_bind h
      obtain ⟨b, hb, h⟩ := ok_of_bind h
      cases eq_of_pure_ok h
      exact ⟨a, b, ha, hb, rfl, hschema front back a b ha hb, rfl⟩
    · rintro ⟨a, b, ha, hb, hs, _, hrows⟩
      rw [ha, hb]
      cases e
      cases hs
      cases hrows
      rfl
  fails front back err := by
    rw [hcut]
    cases f front with
    | error err' => exact ⟨.inl, fun h => h.elim id fun h => nomatch h.1⟩
    | ok a =>
      cases f back with
      | error err' => exact ⟨fun h => .inr ⟨⟨a, rfl⟩, h⟩, fun h => h.elim nofun (·.2)⟩
      | ok b => exact ⟨nofun, fun h => h.elim nofun fun h => nomatch h.2⟩
  shared := Division.run_eq hcut

theorem Divisible.of_collect
    (found : Except EvalError (Schema × (Row → Except EvalError (List Row))))
    (hf : ∀ rows, f rows = found >>= fun p => collect p.2 rows >>= fun out => .ok ⟨p.1, out⟩) :
    Divisible f := by
  cases found with
  -- Where the structure is not found every part fails with the same error.
  | error err =>
    have hfails : ∀ rows, f rows = .error err := hf
    refine .of_cut (fun front back => ?_) fun front back a b ha => ?_
    · rw [hfails, hfails, hfails]
      rfl
    · rw [hfails] at ha
      cases ha
  | ok p =>
    have hgives : ∀ rows, f rows = collect p.2 rows >>= fun out => .ok ⟨p.1, out⟩ := hf
    refine .of_cut (fun front back => ?_) fun front back a b ha hb => ?_
    · rw [hgives, hgives, hgives, collect_append]
      cases collect p.2 front with
      | error err => rfl
      | ok a => cases collect p.2 back <;> rfl
    · rw [hgives] at ha hb
      obtain ⟨_, _, ha⟩ := ok_of_bind ha
      obtain ⟨_, _, hb⟩ := ok_of_bind hb
      cases ha
      cases hb
      rfl

end

variable (s : Schema) (outer : Scope)

theorem divisible_filter (condition : Scalar) :
    Divisible fun rows => Dataset.filter ⟨s, rows⟩ condition outer := by
  refine .of_collect (.ok (s, fun r => do
    let v ← condition.eval (Scope.ofRow s r outer)
    return if v.boolean? = some true then [r] else [])) fun rows => ?_
  rw [filter, filterRows_eq]
  rfl

/-- Rows are looked at together only where the calculation adds identifiers. -/
theorem divisible_calculate {columns : List CalcColumn}
    (hcolumns : ∀ col ∈ columns, col.role ≠ .identifier) :
    Divisible fun rows => Dataset.calculate ⟨s, rows⟩ columns outer := by
  have hplain : columns.any (·.role == .identifier) = false :=
    List.any_eq_false.2 fun col hcol => by simpa using hcolumns col hcol
  refine .of_collect (do
    let t ← s.calculate (columns.map (·.column))
    let slots ← liftModel (t.positions (columns.map (·.name)))
    return (t, fun r => do
      let q ← calculateRow s columns slots t.size outer r
      return [q])) fun rows => ?_
  simp only [calculate, hplain, calculateRows_eq, bind_assoc, pure_bind]
  rfl

end Dataset

variable (s : Schema) (outer : Scope)

namespace MeasureMap

def ledBy (before : List Value) (d : Dataset) (after : List Operand) : List Operand :=
  before.map .scalar ++ .dataset d :: after

variable {d : Dataset} {after : List Operand}

theorem ledBy_cons (v : Value) (before : List Value) :
    ledBy (v :: before) d after = .scalar v :: ledBy before d after := rfl

theorem findSome?_ledBy (before : List Value) :
    (ledBy before d after).findSome? Operand.dataset? = some d := by
  induction before with
  | nil => rfl
  | cons v before ih => exact ih

theorem eq_ledBy_of_findSome? {operands : List Operand}
    (h : operands.findSome? Operand.dataset? = some d) :
    ∃ before after, operands = ledBy before d after := by
  induction operands with
  | nil => cases h
  | cons o operands ih =>
    cases o with
    | dataset d' =>
      cases h
      exact ⟨[], operands, rfl⟩
    | scalar v =>
      obtain ⟨before, after, rfl⟩ := ih h
      exact ⟨v :: before, after, rfl⟩

section
variable (s : Schema) (rows rows' : List Row)

theorem sides_ledBy (ids : List String) (before : List Value) :
    sides ids false (ledBy before ⟨s, rows⟩ after) =
      sides ids false (ledBy before ⟨s, rows'⟩ after) := by
  induction before with
  | nil => rfl
  | cons v before ih => rw [ledBy_cons, ledBy_cons, sides, sides, ih]

theorem sourceColumns_ledBy (names : List (Option String)) (before : List Value) :
    sourceColumns names (ledBy before ⟨s, rows⟩ after) =
      sourceColumns names (ledBy before ⟨s, rows'⟩ after) := by
  induction before generalizing names with
  | nil => rcases names with _ | ⟨_ | n, names⟩ <;> rfl
  | cons v before ih =>
    cases names with
    | nil => rfl
    | cons n names => rw [ledBy_cons, ledBy_cons, sourceColumns, sourceColumns, ih]

theorem outputColumns_ledBy (outs : List MeasureOutput) (before : List Value) :
    outputColumns (ledBy before ⟨s, rows⟩ after) outs =
      outputColumns (ledBy before ⟨s, rows'⟩ after) outs := by
  induction outs with
  | nil => rfl
  | cons o outs ih => rw [outputColumns, outputColumns, sourceColumns_ledBy s rows rows', ih]

end

theorem divisible_evaluate (m : MeasureMap) (today : Date) (before : List Value)
    (after : List Operand) :
    Dataset.Divisible fun rows => m.evaluate today (ledBy before ⟨s, rows⟩ after) := by
  -- What is found stands for the operands with no leading rows: those are not looked at.
  refine .of_collect (do
    let t ← liftModel m.schema
    let ids := m.identifiers.map (·.name)
    let sides ← liftModel (sides ids false (ledBy before ⟨s, []⟩ after))
    let columns ← liftModel (outputColumns (ledBy before ⟨s, []⟩ after) m.outputs)
    let leading ← liftModel (s.positions ids)
    return (t, joined today sides leading (m.outputs.zip columns))) fun rows => ?_
  simp only [evaluate, findSome?_ledBy, rows_eq, sides_ledBy s rows [],
    outputColumns_ledBy s rows [], bind_assoc, pure_bind]
  rfl

end MeasureMap

theorem Check.divisible_evaluate (c : Check) (imbalance : Option Dataset) :
    Dataset.Divisible fun rows => c.evaluate outer ⟨s, rows⟩ imbalance := by
  refine .of_collect (do
    let type ← imbalanceType imbalance
    let t ← liftModel (schema s type)
    let column ← conditionColumn s
    let others ← imbalances s imbalance
    return (t, fun r => (c.reportRow s column others outer r).map Option.toList)) fun rows => ?_
  simp only [evaluate, Check.rows, reportRows_eq, bind_assoc, pure_bind]
  rfl

theorem DatapointCheck.divisible_evaluate (c : DatapointCheck) :
    Dataset.Divisible fun rows => c.evaluate outer ⟨s, rows⟩ := by
  refine .of_collect (do
    let out ← liftModel (c.schema s)
    return (out, fun r =>
      c.reportRules s (keptIndices s out) (Scope.ofRow s r outer) r c.rules)) fun rows => ?_
  simp only [evaluate, reportRows_eq, bind_assoc, pure_bind]
  rfl

/-- The operations that treat each row of one dataset on its own. A calculation belongs to them
    unless it adds identifiers. -/
inductive RowOperation where
  | filter (condition : Scalar)
  | calculate (columns : List CalcColumn) (plain : ∀ col ∈ columns, col.role ≠ .identifier)
  | measures (m : MeasureMap) (before : List Value) (after : List Operand)
  | check (c : Check) (imbalance : Option Dataset)
  | rules (c : DatapointCheck)

def RowOperation.run (today : Date) (rows : List Row) : RowOperation → Except EvalError Dataset
  | .filter condition => Dataset.filter ⟨s, rows⟩ condition outer
  | .calculate columns _ => Dataset.calculate ⟨s, rows⟩ columns outer
  | .measures m before after => m.evaluate today (MeasureMap.ledBy before ⟨s, rows⟩ after)
  | .check c imbalance => c.evaluate outer ⟨s, rows⟩ imbalance
  | .rules c => c.evaluate outer ⟨s, rows⟩

/-- Filters, calculations, operations on measures and both checks of rows can be carried out on
    the rows in parts. -/
theorem RowOperation.divisible (op : RowOperation) (today : Date) :
    Dataset.Divisible fun rows => op.run s outer today rows := by
  cases op with
  | filter condition => exact Dataset.divisible_filter s outer condition
  | calculate columns plain => exact Dataset.divisible_calculate s outer plain
  | measures m before after => exact m.divisible_evaluate s today before after
  | check c imbalance => exact c.divisible_evaluate s outer imbalance
  | rules c => exact c.divisible_evaluate s outer

end Tabular
