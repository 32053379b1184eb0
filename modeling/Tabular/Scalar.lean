import Tabular.Dataset.Basic
import Tabular.Operation.Build

set_option autoImplicit false

namespace Tabular

/-- What an expression can read: named values and the current day. -/
structure Scope where
  lookup : String → Option Value
  today : Date

namespace Scope

def empty : Scope := ⟨fun _ => none, Date.epoch⟩

/-- The components of one row, and behind them an outer scope. -/
def ofRow (s : Schema) (r : Row) (outer : Scope) : Scope where
  lookup name :=
    match s.indexOf? name with
    | some i => some (Row.cell r i)
    | none => outer.lookup name
  today := outer.today

end Scope

inductive Scalar where
  | literal (value : Value) (type : Option ScalarType)
  | read (name : String) (type : ScalarType)
  | apply (op : Operation) (args : List Scalar)
  | shortCircuit (dominant : Bool) (left right : Scalar)
  | conditional (test yes no : Scalar) (type : Option ScalarType)

namespace Scalar

def ofValue (v : Value) : Scalar := .literal v v.type?

/-- The static type; absent only for the null literal. -/
def type? : Scalar → Option ScalarType
  | .literal _ t => t
  | .read _ t => some t
  | .apply op _ => some op.result
  | .shortCircuit _ _ _ => some .boolean
  | .conditional _ _ _ t => t

def componentType (e : Scalar) : ScalarType := e.type?.getD .string

mutual

def isConstant : Scalar → Bool
  | .literal _ _ => true
  | .read _ _ => false
  | .apply op args => !op.isVolatile && allConstant args
  | .shortCircuit _ l r => l.isConstant && r.isConstant
  | .conditional t y n _ => t.isConstant && y.isConstant && n.isConstant

def allConstant : List Scalar → Bool
  | [] => true
  | e :: es => e.isConstant && allConstant es

end

mutual

def isVolatile : Scalar → Bool
  | .literal _ _ => false
  | .read _ _ => false
  | .apply op args => op.isVolatile || anyVolatile args
  | .shortCircuit _ l r => l.isVolatile || r.isVolatile
  | .conditional t y n _ => t.isVolatile || y.isVolatile || n.isVolatile

def anyVolatile : List Scalar → Bool
  | [] => false
  | e :: es => e.isVolatile || anyVolatile es

end

/-- The result of `and` (dominant false) or `or` (dominant true) when the left operand does not
    decide it. -/
def combine (dominant : Bool) (a b : Value) : Value :=
  match a.boolean?, b.boolean? with
  | _, some q =>
    if q == dominant then .boolean dominant
    else if a.boolean?.isSome then .boolean !dominant
    else .null
  | _, none => .null

mutual

def eval (s : Scope) : Scalar → Except EvalError Value
  | .literal v _ => .ok v
  | .read n _ =>
    match s.lookup n with
    | some v => .ok v
    | none => .error (.unbound n)
  | .apply op args => do
    let vs ← evalAll s args
    op.call s.today vs
  | .shortCircuit dominant l r => do
    let a ← eval s l
    if a.boolean? = some dominant then return .boolean dominant
    else
      let b ← eval s r
      return combine dominant a b
  | .conditional t y n _ => do
    let c ← eval s t
    if c.boolean? = some true then eval s y else eval s n

def evalAll (s : Scope) : List Scalar → Except EvalError (List Value)
  | [] => .ok []
  | e :: es => do
    let v ← eval s e
    let vs ← evalAll s es
    return v :: vs

end

/-- The value of an expression that is known without a scope. -/
def known? (e : Scalar) : Option Value :=
  if e.isConstant && !e.isVolatile then
    match e.eval Scope.empty with
    | .ok v => some v
    | .error _ => none
  else none

/-- A known value takes the place of its expression; an expression that fails is kept. -/
def fold (e : Scalar) : Scalar :=
  match e.known? with
  | some v => .literal v e.type?
  | none => e

end Scalar
end Tabular
