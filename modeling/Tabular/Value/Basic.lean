import Tabular.Date
import Tabular.Decimal.Layout
import Tabular.Number.Order
import Tabular.Number.Rounding
import Tabular.Value.Type

set_option autoImplicit false

/-!
# Values

A value is null or carries data of one scalar type. Null conforms to every type.

`order` is the order of sorting and comparison: null first, integers and numbers numerically
through the nearest double, values of unrelated types by type. `same` is the equality of keys,
under which an integer and a number never agree.
-/
namespace Tabular

inductive Value where
  | null
  | string (s : String)
  | integer (i : Int64)
  | number (x : Number)
  | boolean (b : Bool)
  | date (d : Date)
  | duration (p : Period)
  deriving DecidableEq

namespace Value

def isNull : Value → Bool
  | .null => true
  | _ => false

def type? : Value → Option ScalarType
  | .null => none
  | .string _ => some .string
  | .integer _ => some .integer
  | .number _ => some .number
  | .boolean _ => some .boolean
  | .date _ => some .date
  | .duration _ => some .duration

def conforms (v : Value) (t : ScalarType) : Bool :=
  match v.type? with
  | none => true
  | some u => u == t

def boolean? : Value → Option Bool
  | .boolean b => some b
  | _ => none

def integer? : Value → Option Int64
  | .integer i => some i
  | _ => none

def number? : Value → Option Number
  | .integer i => some (Number.ofInteger i)
  | .number x => some x
  | _ => none

def string? : Value → Option String
  | .string s => some s
  | _ => none

def isZero : Value → Bool
  | .integer i => i == 0
  | .number x => x.isZero
  | _ => false

def zero : ScalarType → Value
  | .number => .number 0.0
  | _ => .integer 0

def ofOption {α : Type} (f : α → Value) : Option α → Value
  | none => .null
  | some a => f a

def rank : Value → Nat
  | .null => 0
  | .boolean _ => 1
  | .integer _ => 2
  | .number _ => 2
  | .string _ => 3
  | .date _ => 4
  | .duration _ => 5

/-- Numbers compare by value, everything else by the rank of its type. -/
def mixedOrder (a b : Value) : Ordering :=
  match a.number?, b.number? with
  | some x, some y => Number.order x y
  | _, _ => compare a.rank b.rank

def order (a b : Value) : Ordering :=
  match a, b with
  | .null, .null => .eq
  | .null, _ => .lt
  | _, .null => .gt
  | .string s, .string t => compare s t
  | .integer i, .integer j => compare i.toInt j.toInt
  | .boolean p, .boolean q => compare p.toNat q.toNat
  | .date d, .date e => d.order e
  | .duration p, .duration q => p.order q
  | a, b => mixedOrder a b

/-- Equality of keys: zeros of either sign are the same, and so are NaNs. -/
def same (a b : Value) : Bool :=
  match a, b with
  | .null, .null => true
  | .string s, .string t => s == t
  | .integer i, .integer j => i == j
  | .number x, .number y => Number.same x y
  | .boolean p, .boolean q => p == q
  | .date d, .date e => d == e
  | .duration p, .duration q => p == q
  | _, _ => false

/-- Numbers are written with the fewest digits that read back and never with an exponent. -/
def numberLayout : Decimal.Layout where
  tie := .up
  positional := fun _ => true
  whole := ""
  plus := ""
  nan := "NaN"
  infinity := "inf"
  negativeInfinity := "-inf"

def render : Value → String
  | .null => "null"
  | .string s => s
  | .integer i => toString i.toInt
  | .number x => numberLayout.write x
  | .boolean b => if b then "true" else "false"
  | .date d => d.render
  | .duration p => p.render

/-- Reads the literal form of a value of the given type. Blanks around it are ignored, except in
    strings, which are taken as they are. -/
def parse? (t : ScalarType) (text : String) : Option Value :=
  let body := Text.trim text
  match t with
  | .string => some (.string text)
  | .integer => ((Decimal.integer? body.toList).bind Integer.check).map .integer
  | .number => (Decimal.number? body.toList).map .number
  | .boolean =>
    match String.ofList (body.toList.map Char.toLower) with
    | "true" => some (.boolean true)
    | "false" => some (.boolean false)
    | _ => none
  | .date => (Date.parse? body.toList).map .date
  | .duration => (Period.parse? body).map .duration

end Value

abbrev Key := List Value

namespace Key

def same : Key → Key → Bool
  | [], [] => true
  | a :: r, b :: s => a.same b && same r s
  | _, _ => false

def render (k : Key) : String := ", ".intercalate (k.map Value.render)

end Key
end Tabular
