import Tabular.Failure
import Tabular.Pattern.Matcher

set_option autoImplicit false

namespace Tabular

inductive UnaryOp where
  | plus
  | minus
  | not
  deriving DecidableEq, Repr

inductive Arithmetic where
  | add
  | sub
  | mul
  deriving DecidableEq, Repr

def Arithmetic.symbol : Arithmetic → String
  | .add => "+"
  | .sub => "-"
  | .mul => "*"

inductive Comparison where
  | eq
  | ne
  | lt
  | le
  | gt
  | ge
  deriving DecidableEq, Repr

namespace Comparison

def symbol : Comparison → String
  | .eq => "="
  | .ne => "<>"
  | .lt => "<"
  | .le => "<="
  | .gt => ">"
  | .ge => ">="

def holds (c : Comparison) (o : Ordering) : Bool :=
  match c with
  | .eq => o == .eq
  | .ne => o != .eq
  | .lt => o == .lt
  | .le => o != .gt
  | .gt => o == .gt
  | .ge => o != .lt

end Comparison

inductive Connective where
  | and
  | or
  | xor
  deriving DecidableEq, Repr

def Connective.symbol : Connective → String
  | .and => "and"
  | .or => "or"
  | .xor => "xor"

inductive BinaryOp where
  | arithmetic (op : Arithmetic)
  | divide
  | concat
  | compare (c : Comparison)
  | logic (c : Connective)
  deriving DecidableEq, Repr

def BinaryOp.symbol : BinaryOp → String
  | .arithmetic op => op.symbol
  | .divide => "/"
  | .concat => "||"
  | .compare c => c.symbol
  | .logic c => c.symbol

def BinaryOp.all : List BinaryOp :=
  [.arithmetic .add, .arithmetic .sub, .arithmetic .mul, .divide, .concat, .compare .eq,
   .compare .ne, .compare .lt, .compare .le, .compare .gt, .compare .ge, .logic .and, .logic .or,
   .logic .xor]

def BinaryOp.isComparison : BinaryOp → Bool
  | .compare _ => true
  | _ => false

def BinaryOp.holds (op : BinaryOp) (o : Ordering) : Bool :=
  match op with
  | .compare c => c.holds o
  | _ => false

inductive Operation where
  | plus (type : ScalarType)
  | minus (type : ScalarType)
  | not
  | arithmetic (op : Arithmetic) (type : ScalarType)
  | divide
  | concat
  | compare (c : Comparison)
  | logic (c : Connective)
  | member (set : List Value) (negated : Bool)
  | between
  | cast (target : ScalarType)
  | length
  | upper
  | lower
  | trim
  | trimStart
  | trimEnd
  | substring
  | replace
  | find
  | matching (reader : PatternReader) (pattern : Option (String → Bool))
  | abs (type : ScalarType)
  | ceil
  | floor
  | round
  | trunc
  | sqrt
  | exp
  | ln
  | log
  | power
  | modulo (type : ScalarType)
  | isNull
  | orElse (type : ScalarType)
  | currentDate
  | editDistance

namespace Operation

def name : Operation → String
  | .plus _ => "plus"
  | .minus _ => "minus"
  | .not => "not"
  | .arithmetic op _ => op.symbol
  | .divide => "/"
  | .concat => "||"
  | .compare c => c.symbol
  | .logic c => c.symbol
  | .member _ negated => if negated then "not_in" else "in"
  | .between => "between"
  | .cast _ => "cast"
  | .length => "length"
  | .upper => "upper"
  | .lower => "lower"
  | .trim => "trim"
  | .trimStart => "ltrim"
  | .trimEnd => "rtrim"
  | .substring => "substr"
  | .replace => "replace"
  | .find => "instr"
  | .matching _ _ => "match_characters"
  | .abs _ => "abs"
  | .ceil => "ceil"
  | .floor => "floor"
  | .round => "round"
  | .trunc => "trunc"
  | .sqrt => "sqrt"
  | .exp => "exp"
  | .ln => "ln"
  | .log => "log"
  | .power => "power"
  | .modulo _ => "mod"
  | .isNull => "isnull"
  | .orElse _ => "nvl"
  | .currentDate => "current_date"
  | .editDistance => "levenshtein"

def result : Operation → ScalarType
  | .plus t => t
  | .minus t => t
  | .not => .boolean
  | .arithmetic _ t => t
  | .divide => .number
  | .concat => .string
  | .compare _ => .boolean
  | .logic _ => .boolean
  | .member _ _ => .boolean
  | .between => .boolean
  | .cast t => t
  | .length => .integer
  | .upper => .string
  | .lower => .string
  | .trim => .string
  | .trimStart => .string
  | .trimEnd => .string
  | .substring => .string
  | .replace => .string
  | .find => .integer
  | .matching _ _ => .boolean
  | .abs t => t
  | .ceil => .integer
  | .floor => .integer
  | .round => .number
  | .trunc => .number
  | .sqrt => .number
  | .exp => .number
  | .ln => .number
  | .log => .number
  | .power => .number
  | .modulo t => t
  | .isNull => .boolean
  | .orElse t => t
  | .currentDate => .date
  | .editDistance => .integer

/-- A volatile operation can give another result at another time. -/
def isVolatile : Operation → Bool
  | .currentDate => true
  | _ => false

/-- A strict operation gives null as soon as one operand is null. -/
def isStrict : Operation → Bool
  | .logic _ => false
  | .cast _ => false
  | .isNull => false
  | .orElse _ => false
  | .currentDate => false
  | _ => true

end Operation
end Tabular
