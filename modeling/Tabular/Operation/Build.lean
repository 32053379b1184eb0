import Tabular.Operation.Call
import Tabular.Typing

set_option autoImplicit false

namespace Tabular.Operation

def unary (op : UnaryOp) (operand : Option ScalarType) : Except TypingError Operation :=
  match op with
  | .plus => do
    Typing.expectNumeric "unary +" operand
    return .plus (Typing.numericOrInteger operand)
  | .minus => do
    Typing.expectNumeric "unary -" operand
    return .minus (Typing.numericOrInteger operand)
  | .not => do
    Typing.expect "not" operand .boolean
    return .not

def binary (op : BinaryOp) (left right : Option ScalarType) : Except TypingError Operation :=
  match op with
  | .arithmetic a => do
    let t ← Typing.numeric a.symbol left right
    return .arithmetic a t
  | .divide => do
    let _ ← Typing.division left right
    return .divide
  | .concat => do
    Typing.expect op.symbol left .string
    Typing.expect op.symbol right .string
    return .concat
  | .compare c => do
    let _ ← Typing.common c.symbol left right
    return .compare c
  | .logic c => do
    Typing.expect c.symbol left .boolean
    Typing.expect c.symbol right .boolean
    return .logic c

def checkMembers (operator : String) (operand : Option ScalarType) :
    List Value → Except TypingError Unit
  | [] => .ok ()
  | v :: vs => do
    let _ ← Typing.common operator operand v.type?
    checkMembers operator operand vs

def memberOf (operand : Option ScalarType) (set : List Value) (negated : Bool) :
    Except TypingError Operation := do
  checkMembers (if negated then "not_in" else "in") operand set
  return .member set negated

def betweenOf (operand low high : Option ScalarType) : Except TypingError Operation := do
  let _ ← Typing.common "between" operand low
  let _ ← Typing.common "between" operand high
  return .between

/-- A pattern known in advance is read once. -/
def matchingOf (pattern : Option String) (reader : PatternReader := .standard) :
    Except EvalError Operation :=
  match pattern with
  | none => .ok (.matching reader none)
  | some source => do
    let p ← compilePattern reader source
    return .matching reader (some p)

end Tabular.Operation
