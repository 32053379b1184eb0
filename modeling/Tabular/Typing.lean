import Tabular.Failure

set_option autoImplicit false

namespace Tabular.Typing

/-- The type two operands of one operator are evaluated at. -/
def common (operator : String) (left right : Option ScalarType) :
    Except TypingError (Option ScalarType) :=
  match left, right with
  | none, t => .ok t
  | t, none => .ok t
  | some a, some b =>
    if a = b then .ok (some a)
    else if a.isNumeric && b.isNumeric then .ok (some .number)
    else .error (.operands operator [left, right])

def numericOrNull : Option ScalarType → Bool
  | none => true
  | some t => t.isNumeric

def numeric (operator : String) (left right : Option ScalarType) :
    Except TypingError ScalarType :=
  if numericOrNull left && numericOrNull right then do
    let t ← common operator left right
    return t.getD .integer
  else .error (.operands operator [left, right])

def division (left right : Option ScalarType) : Except TypingError ScalarType := do
  let _ ← numeric "/" left right
  return .number

def unifyFrom (operator : String) (all : List (Option ScalarType)) :
    Option ScalarType → List (Option ScalarType) → Except TypingError (Option ScalarType)
  | t, [] => .ok t
  | t, u :: rest =>
    match common operator t u with
    | .ok v => unifyFrom operator all v rest
    | .error _ => .error (.operands operator all)

def unify (operator : String) (types : List (Option ScalarType)) :
    Except TypingError (Option ScalarType) :=
  unifyFrom operator types none types

/-- Strings cast to every type; dates and durations only to strings. -/
def castAllowed (source target : ScalarType) : Bool :=
  source == target ||
    match source, target with
    | .string, _ => true
    | .date, t => t == .string
    | .duration, t => t == .string
    | _, .date => false
    | _, .duration => false
    | _, _ => true

def cast (source : Option ScalarType) (target : ScalarType) : Except TypingError Unit :=
  match source with
  | none => .ok ()
  | some s => if castAllowed s target then .ok () else .error (.cast s target)

def expect (operator : String) (found : Option ScalarType) (expected : ScalarType) :
    Except TypingError Unit :=
  match found with
  | none => .ok ()
  | some t => if t = expected then .ok () else .error (.operandType operator expected t)

def expectNumeric (operator : String) (found : Option ScalarType) : Except TypingError Unit :=
  match found with
  | none => .ok ()
  | some t => if t.isNumeric then .ok () else .error (.operandNumeric operator t)

/-- The null literal counts as an integer where a number is wanted. -/
def numericOrInteger (found : Option ScalarType) : ScalarType := found.getD .integer

def arity (operator : String) (found least most : Nat) : Except TypingError Unit :=
  if least ≤ found ∧ found ≤ most then .ok ()
  else .error (.argumentCount operator least most found)

def expectAll (operator : String) (expected : ScalarType) :
    List (Option ScalarType) → Except TypingError Unit
  | [] => .ok ()
  | t :: ts => do
    expect operator t expected
    expectAll operator expected ts

def expectAllNumeric (operator : String) : List (Option ScalarType) → Except TypingError Unit
  | [] => .ok ()
  | t :: ts => do
    expectNumeric operator t
    expectAllNumeric operator ts

end Tabular.Typing
