import Tabular.Compile.Error
import Tabular.Operation.Build

set_option autoImplicit false

namespace Tabular.ScalarFunction

def arity : ScalarFunction → Nat × Nat
  | .substr => (1, 3)
  | .replace => (2, 3)
  | .instr => (2, 4)
  | .matchCharacters => (2, 2)
  | .round => (1, 2)
  | .trunc => (1, 2)
  | .log => (2, 2)
  | .power => (2, 2)
  | .mod => (2, 2)
  | .nvl => (2, 2)
  | .between => (3, 3)
  | .currentDate => (0, 0)
  | .levenshtein => (2, 2)
  | _ => (1, 1)

def textOperation (f : ScalarFunction) (strings : Nat) (types : List (Option ScalarType))
    (op : Operation) : Except TypingError Operation := do
  Typing.expectAll f.name .string (types.take strings)
  Typing.expectAll f.name .integer (types.drop strings)
  return op

def numericOperation (f : ScalarFunction) (types : List (Option ScalarType)) (op : Operation) :
    Except TypingError Operation := do
  Typing.expectAllNumeric f.name types
  return op

def roundingOperation (f : ScalarFunction) (types : List (Option ScalarType)) (op : Operation) :
    Except TypingError Operation := do
  Typing.expectAllNumeric f.name (types.take 1)
  Typing.expectAll f.name .integer (types.drop 1)
  return op

def typedOperation (f : ScalarFunction) (reader : PatternReader)
    (types : List (Option ScalarType)) : Except TypingError Operation :=
  let first := types.getD 0 none
  let second := types.getD 1 none
  match f with
  | .length => f.textOperation 1 types .length
  | .upper => f.textOperation 1 types .upper
  | .lower => f.textOperation 1 types .lower
  | .trim => f.textOperation 1 types .trim
  | .ltrim => f.textOperation 1 types .trimStart
  | .rtrim => f.textOperation 1 types .trimEnd
  | .substr => f.textOperation 1 types .substring
  | .replace => f.textOperation 3 types .replace
  | .instr => f.textOperation 2 types .find
  | .matchCharacters => f.textOperation 2 types (.matching reader none)
  | .abs => f.numericOperation types (.abs (Typing.numericOrInteger first))
  | .ceil => f.numericOperation types .ceil
  | .floor => f.numericOperation types .floor
  | .round => f.roundingOperation types .round
  | .trunc => f.roundingOperation types .trunc
  | .sqrt => f.numericOperation types .sqrt
  | .exp => f.numericOperation types .exp
  | .ln => f.numericOperation types .ln
  | .log => f.numericOperation types .log
  | .power => f.numericOperation types .power
  | .mod => do
    let t ← Typing.numeric f.name first second
    return .modulo t
  | .isNull => .ok .isNull
  | .nvl => do
    let t ← Typing.unify f.name types
    return .orElse (t.getD .string)
  | .between => Operation.betweenOf first second (types.getD 2 none)
  | .currentDate => .ok .currentDate
  | .levenshtein => f.textOperation 2 types .editDistance

def withPattern (op : Operation) (constants : List (Option Value)) :
    Except EvalError Operation :=
  match op with
  | .matching reader none =>
    Operation.matchingOf ((constants.getD 1 none).bind Value.string?) reader
  | op => .ok op

def operation (f : ScalarFunction) (reader : PatternReader) (types : List (Option ScalarType))
    (constants : List (Option Value)) : Except CompileFault Operation := do
  Compile.typing (Typing.arity f.name types.length f.arity.1 f.arity.2)
  let op ← Compile.typing (f.typedOperation reader types)
  Compile.evaluation (withPattern op constants)

end Tabular.ScalarFunction
