import Tabular.Scalar
import Tabular.Transform.Shape
import Tabular.Window.Evaluate

set_option autoImplicit false

namespace Tabular

structure CalcColumn where
  name : String
  role : Role
  expression : Scalar

def CalcColumn.column (c : CalcColumn) : Schema.Column :=
  ⟨c.name, c.role, c.expression.componentType⟩

namespace Row

def resize (r : Row) (n : Nat) : Row := r.take n ++ List.replicate (n - r.length) .null

@[simp] theorem length_resize (r : Row) (n : Nat) : (r.resize n).length = n := by
  simp only [resize, List.length_append, List.length_take, List.length_replicate]
  omega

def write : Row → List (Nat × Value) → Row
  | r, [] => r
  | r, (i, v) :: rest => write (r.set i v) rest

@[simp] theorem length_write (r : Row) (slots : List (Nat × Value)) :
    (r.write slots).length = r.length := by
  induction slots generalizing r with
  | nil => rfl
  | cons p rest ih => rw [write, ih, List.length_set]

end Row

namespace Dataset

def rename (d : Dataset) (pairs : List (String × String)) : Except EvalError Dataset := do
  let s ← d.schema.rename pairs
  return ⟨s, d.rows⟩

def project (d : Dataset) (names : List String) (keep : Bool) : Except EvalError Dataset := do
  let s ← d.schema.project names keep
  let indices ← liftModel (d.schema.positions s.names)
  return ⟨s, d.rows.map (Row.project · indices)⟩

def filterRows (s : Schema) (condition : Scalar) (outer : Scope) :
    List Row → Except EvalError (List Row)
  | [] => .ok []
  | r :: rest => do
    let v ← condition.eval (Scope.ofRow s r outer)
    let kept ← filterRows s condition outer rest
    return if v.boolean? = some true then r :: kept else kept

def filter (d : Dataset) (condition : Scalar) (outer : Scope) : Except EvalError Dataset := do
  let rows ← filterRows d.schema condition outer d.rows
  return ⟨d.schema, rows⟩

def calculateRow (s : Schema) (columns : List CalcColumn) (slots : List Nat) (width : Nat)
    (outer : Scope) (r : Row) : Except EvalError Row := do
  let values ← Scalar.evalAll (Scope.ofRow s r outer) (columns.map (·.expression))
  return Row.write (Row.resize r width) (slots.zip values)

def calculateRows (s : Schema) (columns : List CalcColumn) (slots : List Nat) (width : Nat)
    (outer : Scope) : List Row → Except EvalError (List Row)
  | [] => .ok []
  | r :: rest => do
    let r ← calculateRow s columns slots width outer r
    let rest ← calculateRows s columns slots width outer rest
    return r :: rest

/-- Rows are checked again only when the calculation adds identifiers. -/
def calculate (d : Dataset) (columns : List CalcColumn) (outer : Scope) :
    Except EvalError Dataset := do
  let s ← d.schema.calculate (columns.map (·.column))
  let slots ← liftModel (s.positions (columns.map (·.name)))
  let rows ← calculateRows d.schema columns slots s.size outer d.rows
  if columns.any (·.role == .identifier) then liftModel (Dataset.ofRows s rows)
  else return ⟨s, rows⟩

def windowResults (d : Dataset) : List WindowCall → Except EvalError (List (List Value))
  | [] => .ok []
  | c :: rest => do
    let values ← Window.evaluate d.rows d.schema c
    let others ← d.windowResults rest
    return values :: others

def windowed (d : Dataset) (calls : List WindowCall) : Except EvalError Dataset := do
  let s ← d.schema.windowed calls
  let slots ← liftModel (s.positions (calls.map (·.target)))
  let results ← d.windowResults calls
  let rows := (Window.number d.rows).map fun (i, r) =>
    Row.write (Row.resize r s.size) (slots.zip (results.map (·.getD i .null)))
  return ⟨s, rows⟩

end Dataset
end Tabular
