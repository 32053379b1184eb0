import Tabular.Operation.Basic
import Tabular.Text.Case
import Tabular.Text.Distance
import Tabular.Text.Search
import Tabular.Value.Cast

set_option autoImplicit false

namespace Tabular

namespace Value

def expectNumber (v : Value) : Except EvalError Number :=
  match v.number? with
  | some x => .ok x
  | none => .error (.unexpectedValue .number v.render)

def expectInteger (v : Value) : Except EvalError Int64 :=
  match v.integer? with
  | some i => .ok i
  | none => .error (.unexpectedValue .integer v.render)

def expectBoolean (v : Value) : Except EvalError Bool :=
  match v.boolean? with
  | some b => .ok b
  | none => .error (.unexpectedValue .boolean v.render)

def expectString (v : Value) : Except EvalError String :=
  match v.string? with
  | some s => .ok s
  | none => .error (.unexpectedValue .string v.render)

def widened : Value → Value
  | .integer i => .number (Number.ofInteger i)
  | v => v

end Value

namespace Operation

def checked (operation : String) (n : Int) : Except EvalError Value :=
  match Integer.check n with
  | some i => .ok (.integer i)
  | none => .error (.overflow operation)

def exactArithmetic (op : Arithmetic) (x y : Int) : Int :=
  match op with
  | .add => x + y
  | .sub => x - y
  | .mul => x * y

def roundedArithmetic (op : Arithmetic) (x y : Number) : Number :=
  match op with
  | .add => x + y
  | .sub => x - y
  | .mul => x * y

def evalArithmetic (op : Arithmetic) (t : ScalarType) (a b : Value) : Except EvalError Value :=
  if t = .integer then do
    let x ← a.expectInteger
    let y ← b.expectInteger
    checked op.symbol (exactArithmetic op x.toInt y.toInt)
  else do
    let x ← a.expectNumber
    let y ← b.expectNumber
    return .number (roundedArithmetic op x y)

/-- Three-valued logic; anything but a truth value counts as unknown. -/
def evalLogic (c : Connective) (a b : Value) : Value :=
  match c, a.boolean?, b.boolean? with
  | .and, some false, _ => .boolean false
  | .and, _, some false => .boolean false
  | .and, some true, some true => .boolean true
  | .or, some true, _ => .boolean true
  | .or, _, some true => .boolean true
  | .or, some false, some false => .boolean false
  | .xor, some p, some q => .boolean (p != q)
  | _, _, _ => .null

def evalDivide (a b : Value) : Except EvalError Value := do
  let x ← a.expectNumber
  let y ← b.expectNumber
  if y.isZero then .error .divisionByZero else return .number (x / y)

def evalMinus : Value → Except EvalError Value
  | .integer i => checked "-" (-i.toInt)
  | .number x => .ok (.number (-x))
  | v => .error (.unexpectedValue .number v.render)

def evalAbs : Value → Except EvalError Value
  | .integer i => checked "abs" i.toInt.natAbs
  | v => do
    let x ← v.expectNumber
    return .number x.abs

/-- A whole number as an integer. The bound itself, 2 ^ 63, is still admitted and becomes the
    greatest integer. -/
def wholeInteger (operation : String) (x : Number) : Except EvalError Value :=
  match Number.integerPart? x with
  | some n =>
    if n.natAbs ≤ Number.pow2 63 then .ok (.integer (Integer.clamp n))
    else .error (.overflow operation)
  | none => .error (.overflow operation)

/-- Ten to the number of digits, which is limited to 300 either way. -/
def decimalScale (digits : Option Value) : Except EvalError Number :=
  match digits with
  | none => .ok (Number.tenTo 0)
  | some v => do
    let n ← v.expectInteger
    return Number.tenTo (max (-300) (min 300 n.toInt))

def expectPositive (operation : String) (x : Number) : Except EvalError Number :=
  if x.atMost 0.0 then .error (.invalidArgument operation (.notPositive x)) else .ok x

/-- The remainder with the sign of the divisor. -/
def floorRemainder (a b : Int) : Int :=
  let r := Int.tmod a b
  if r ≠ 0 ∧ (decide (r < 0) ≠ decide (b < 0)) then r + b else r

def evalModulo (t : ScalarType) (a b : Value) : Except EvalError Value :=
  if t = .integer then do
    let x ← a.expectInteger
    let y ← b.expectInteger
    if y.toInt = 0 then .error .divisionByZero
    else if x.toInt = Integer.least ∧ y.toInt = -1 then .error (.overflow "mod")
    else return .integer (Int64.ofInt (floorRemainder x.toInt y.toInt))
  else do
    let x ← a.expectNumber
    let y ← b.expectNumber
    if y.isZero then .error .divisionByZero
    else return .number (x - y * Number.floor (x / y))

def optionalInteger (v : Option Value) (default : Int) : Except EvalError Int :=
  match v with
  | none => .ok default
  | some v => do
    let i ← v.expectInteger
    return i.toInt

def evalSubstring (s : Value) (start length : Option Value) : Except EvalError Value := do
  let s ← s.expectString
  let start ← optionalInteger start 1
  if start < 1 then .error (.invalidArgument "substr" (.startNotPositive start))
  else
    let first := (start - 1).toNat
    match length with
    | none => return .string (String.ofList (Text.slice s.toList first none))
    | some n => do
      let n ← n.expectInteger
      if n.toInt < 0 then .error (.invalidArgument "substr" (.lengthNegative n.toInt))
      else return .string (String.ofList (Text.slice s.toList first (some n.toInt.toNat)))

def evalReplace (s pattern : Value) (replacement : Option Value) : Except EvalError Value := do
  let s ← s.expectString
  let pattern ← pattern.expectString
  let replacement ← match replacement with
    | none => pure ""
    | some v => v.expectString
  return .string (String.ofList (Text.replaceAll pattern.toList replacement.toList s.toList))

/-- The place, counted from one, of the `n`-th occurrence at or after `start`; zero if there are
    fewer. The empty pattern never occurs. -/
def findOccurrence (s pattern : List Char) (start n : Int) : Nat :=
  if pattern.isEmpty then 0
  else
    let first := (max start 1 - 1).toNat
    let found := (Text.occurrences pattern s).filter fun i => first ≤ i
    match found[(n - 1).toNat]? with
    | some i => i + 1
    | none => 0

def evalFind (s pattern : Value) (start occurrence : Option Value) : Except EvalError Value := do
  let s ← s.expectString
  let pattern ← pattern.expectString
  let start ← optionalInteger start 1
  let occurrence ← optionalInteger occurrence 1
  if occurrence < 1 then .error (.invalidArgument "instr" .occurrenceNotPositive)
  else return .integer (Int64.ofNat (findOccurrence s.toList pattern.toList start occurrence))

def compilePattern (reader : PatternReader) (source : String) :
    Except EvalError (String → Bool) :=
  match reader.whole? source with
  | some p => .ok p
  | none => .error (.invalidArgument "match_characters" .pattern)

def evalMatching (reader : PatternReader) (pattern : Option (String → Bool)) (s source : Value) :
    Except EvalError Value := do
  let s ← s.expectString
  match pattern with
  | some p => return .boolean (p s)
  | none => do
    let source ← source.expectString
    let p ← compilePattern reader source
    return .boolean (p s)

def evalLog (x base : Value) : Except EvalError Value := do
  let x ← x.expectNumber
  let x ← expectPositive "log" x
  let base ← base.expectNumber
  let base ← expectPositive "log" base
  if base.equals 1.0 then .error (.invalidArgument "log" .baseOne)
  else return .number (x.log / base.log)

def evalSqrt (x : Value) : Except EvalError Value := do
  let x ← x.expectNumber
  if x.below 0.0 then .error (.invalidArgument "sqrt" (.negative x)) else return .number x.sqrt

def evalRound (d : Number.Direction) (x : Value) (digits : Option Value) :
    Except EvalError Value := do
  let scale ← decimalScale digits
  let x ← x.expectNumber
  return .number (Number.roundTo d (x * scale) / scale)

def evalMember (set : List Value) (negated : Bool) (x : Value) : Value :=
  .boolean ((set.any fun v => v.widened.same x.widened) != negated)

/-- The action of an operation apart from strictness. -/
def compute (op : Operation) (today : Date) (args : List Value) : Except EvalError Value :=
  let arg (i : Nat) : Value := args.getD i .null
  match op with
  | .plus _ => .ok (arg 0)
  | .minus _ => evalMinus (arg 0)
  | .not => (arg 0).expectBoolean.map fun b => .boolean !b
  | .arithmetic op t => evalArithmetic op t (arg 0) (arg 1)
  | .divide => evalDivide (arg 0) (arg 1)
  | .concat => .ok (.string ((arg 0).render ++ (arg 1).render))
  | .compare c => .ok (.boolean (c.holds ((arg 0).order (arg 1))))
  | .logic c => .ok (evalLogic c (arg 0) (arg 1))
  | .member set negated => .ok (evalMember set negated (arg 0))
  | .between =>
    .ok (.boolean ((arg 0).order (arg 1) != .lt && (arg 0).order (arg 2) != .gt))
  | .cast t => (arg 0).cast t
  | .length => (arg 0).expectString.map fun s => .integer (Int64.ofNat s.length)
  | .upper => (arg 0).expectString.map fun s => .string (Text.upper s)
  | .lower => (arg 0).expectString.map fun s => .string (Text.lower s)
  | .trim => (arg 0).expectString.map fun s => .string (Text.trim s)
  | .trimStart => (arg 0).expectString.map fun s => .string (Text.trimStart s)
  | .trimEnd => (arg 0).expectString.map fun s => .string (Text.trimEnd s)
  | .substring => evalSubstring (arg 0) args[1]? args[2]?
  | .replace => evalReplace (arg 0) (arg 1) args[2]?
  | .find => evalFind (arg 0) (arg 1) args[2]? args[3]?
  | .matching reader pattern => evalMatching reader pattern (arg 0) (arg 1)
  | .abs _ => evalAbs (arg 0)
  | .ceil => (arg 0).expectNumber.bind fun x => wholeInteger "ceil" (Number.ceil x)
  | .floor => (arg 0).expectNumber.bind fun x => wholeInteger "floor" (Number.floor x)
  | .round => evalRound .nearest (arg 0) args[1]?
  | .trunc => evalRound .towardZero (arg 0) args[1]?
  | .sqrt => evalSqrt (arg 0)
  | .exp => (arg 0).expectNumber.map fun x => .number x.exp
  | .ln => do
    let x ← (arg 0).expectNumber
    let x ← expectPositive "ln" x
    return .number x.log
  | .log => evalLog (arg 0) (arg 1)
  | .power => do
    let x ← (arg 0).expectNumber
    let y ← (arg 1).expectNumber
    return .number (x.power y)
  | .modulo t => evalModulo t (arg 0) (arg 1)
  | .isNull => .ok (.boolean (arg 0).isNull)
  | .orElse _ => .ok (if (arg 0).isNull then arg 1 else arg 0)
  | .currentDate => .ok (.date today)
  | .editDistance => do
    let s ← (arg 0).expectString
    let t ← (arg 1).expectString
    return .integer (Int64.ofNat (Text.editDistance s.toList t.toList))

def call (op : Operation) (today : Date) (args : List Value) : Except EvalError Value :=
  if op.isStrict && args.any Value.isNull then .ok .null else op.compute today args

end Operation
end Tabular
