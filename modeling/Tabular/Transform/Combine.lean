import Tabular.Dataset.Keyed

set_option autoImplicit false

namespace Tabular

inductive SetOp where
  | union
  | intersect
  | setdiff
  | symdiff
  deriving DecidableEq, Repr

namespace SetOp

def all : List SetOp := [.union, .intersect, .setdiff, .symdiff]

def name : SetOp → String
  | .union => "union"
  | .intersect => "intersect"
  | .setdiff => "setdiff"
  | .symdiff => "symdiff"

def admits (op : SetOp) (operands : Nat) : Bool :=
  match op with
  | .union => 2 ≤ operands
  | .intersect => 2 ≤ operands
  | .setdiff => operands == 2
  | .symdiff => operands == 2

def arityText : SetOp → String
  | .union => "at least 2"
  | .intersect => "at least 2"
  | .setdiff => "2"
  | .symdiff => "2"

/-- Rows with their columns in the order of `target`, by key. Of rows with the same key the last
    takes the place of the first. -/
def aligned (target : Schema) (d : Dataset) : Except ModelError (Keyed Row) := do
  let columns ← d.schema.positions target.names
  let ids := target.identifierIndices
  return Keyed.ofList (d.rows.map fun r =>
    let r := Row.project r columns
    (Row.key r ids, r))

def alignedAll (target : Schema) : List Dataset → Except ModelError (List (Keyed Row))
  | [] => .ok []
  | d :: ds => do
    let m ← aligned target d
    let ms ← alignedAll target ds
    return m :: ms

def step (op : SetOp) (acc side : Keyed Row) : Keyed Row :=
  match op with
  | .union => side.foldl (fun m p => m.insertNew p.1 p.2) acc
  | .intersect => acc.filter fun p => Keyed.contains side p.1
  | .setdiff => acc.filter fun p => !Keyed.contains side p.1
  | .symdiff =>
    acc.filter (fun p => !Keyed.contains side p.1) ++
      side.filter fun p => !Keyed.contains acc p.1

def evaluate (op : SetOp) (operands : List Dataset) : Except EvalError Dataset :=
  match operands with
  | [] => .error (.invalidArgument op.name .noOperands)
  | first :: rest => do
    let head ← liftModel (aligned first.schema first)
    let sides ← liftModel (alignedAll first.schema rest)
    return ⟨first.schema, (sides.foldl op.step head).map (·.2)⟩

end SetOp
end Tabular
