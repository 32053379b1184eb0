import Tabular.Dataset.Keyed
import Tabular.Operation.Call

set_option autoImplicit false

namespace Tabular

inductive Operand where
  | dataset (d : Dataset)
  | scalar (v : Value)

def Operand.dataset? : Operand → Option Dataset
  | .dataset d => some d
  | .scalar _ => none

/-- An output measure: the operation and, for each operand, the measure it reads. -/
structure MeasureOutput where
  name : String
  operation : Operation
  sources : List (Option String)

structure MeasureMap where
  identifiers : List Component
  outputs : List MeasureOutput

def MeasureMap.schema (m : MeasureMap) : Except ModelError Schema :=
  Schema.ofComponents
    (m.identifiers ++ m.outputs.map fun o => Component.measure o.name o.operation.result)

namespace MeasureMap

/-- How an operand contributes to a joined row. -/
inductive Side where
  | constant (v : Value)
  | leading
  | partner (rows : Keyed Row)

/-- The operands as sides; `led` tells whether the leading dataset has been passed. Of partner rows
    with the same key the last counts. -/
def sides (ids : List String) : Bool → List Operand → Except ModelError (List Side)
  | _, [] => .ok []
  | led, .scalar v :: rest => do
    let others ← sides ids led rest
    return .constant v :: others
  | led, .dataset d :: rest => do
    let columns ← d.schema.positions ids
    let others ← sides ids true rest
    let side := if led then .partner (d.rows.reverse.map fun r => (Row.key r columns, r))
      else .leading
    return side :: others

def sourceColumn : Option String → Operand → Except ModelError (Option Nat)
  | some n, .dataset d => (d.schema.position n).map some
  | _, _ => .ok none

def sourceColumns : List (Option String) → List Operand → Except ModelError (List (Option Nat))
  | n :: ns, o :: os => do
    let i ← sourceColumn n o
    let is ← sourceColumns ns os
    return i :: is
  | _, _ => .ok []

def outputColumns (operands : List Operand) :
    List MeasureOutput → Except ModelError (List (List (Option Nat)))
  | [] => .ok []
  | o :: os => do
    let columns ← sourceColumns o.sources operands
    let rest ← outputColumns operands os
    return columns :: rest

def Side.part (key : Key) (leading : Row) : Side → Option (Value ⊕ Row)
  | .constant v => some (.inl v)
  | .leading => some (.inr leading)
  | .partner rows => (rows.find? key).map .inr

/-- The parts of a joined row, unless a partner is missing. -/
def join (key : Key) (leading : Row) : List Side → Option (List (Value ⊕ Row))
  | [] => some []
  | s :: rest => do
    let p ← s.part key leading
    let ps ← join key leading rest
    return p :: ps

def argument : Value ⊕ Row → Option Nat → Value
  | .inl v, _ => v
  | .inr r, some i => Row.cell r i
  | .inr _, none => .null

def outputValues (today : Date) (parts : List (Value ⊕ Row)) :
    List (MeasureOutput × List (Option Nat)) → Except EvalError (List Value)
  | [] => .ok []
  | (o, columns) :: rest => do
    let v ← o.operation.call today (List.zipWith argument parts columns)
    let vs ← outputValues today parts rest
    return v :: vs

def rows (today : Date) (sides : List Side) (columns : List Nat)
    (outs : List (MeasureOutput × List (Option Nat))) : List Row → Except EvalError (List Row)
  | [] => .ok []
  | r :: rest => do
    let key := Row.key r columns
    match join key r sides with
    | none => rows today sides columns outs rest
    | some parts =>
      let values ← outputValues today parts outs
      let others ← rows today sides columns outs rest
      return (key ++ values) :: others

def evaluate (m : MeasureMap) (today : Date) (operands : List Operand) :
    Except EvalError Dataset := do
  let s ← liftModel m.schema
  match operands.findSome? Operand.dataset? with
  | none => .error (.invalidArgument "measure map" .noDatasetOperand)
  | some first =>
    let ids := m.identifiers.map (·.name)
    let sides ← liftModel (sides ids false operands)
    let columns ← liftModel (outputColumns operands m.outputs)
    let leading ← liftModel (first.schema.positions ids)
    let rows ← rows today sides leading (m.outputs.zip columns) first.rows
    return ⟨s, rows⟩

end MeasureMap
end Tabular
