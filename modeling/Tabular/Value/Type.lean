set_option autoImplicit false

namespace Tabular

inductive ScalarType where
  | string
  | integer
  | number
  | boolean
  | date
  | duration
  deriving DecidableEq, Repr

namespace ScalarType

def all : List ScalarType := [.string, .integer, .number, .boolean, .date, .duration]

def name : ScalarType → String
  | .string => "string"
  | .integer => "integer"
  | .number => "number"
  | .boolean => "boolean"
  | .date => "date"
  | .duration => "duration"

def isNumeric : ScalarType → Bool
  | .integer => true
  | .number => true
  | _ => false

def describe : Option ScalarType → String
  | none => "null"
  | some t => t.name

end ScalarType

inductive Role where
  | identifier
  | measure
  | attribute
  deriving DecidableEq, Repr

def Role.name : Role → String
  | .identifier => "identifier"
  | .measure => "measure"
  | .attribute => "attribute"

/-- The frequency of a time period, from the shortest to the longest. -/
inductive Period where
  | day
  | week
  | month
  | quarter
  | semester
  | annual
  deriving DecidableEq, Repr

namespace Period

def rank : Period → Nat
  | .day => 0
  | .week => 1
  | .month => 2
  | .quarter => 3
  | .semester => 4
  | .annual => 5

def order (a b : Period) : Ordering := compare a.rank b.rank

def render : Period → String
  | .day => "D"
  | .week => "W"
  | .month => "M"
  | .quarter => "Q"
  | .semester => "S"
  | .annual => "A"

def parse? : String → Option Period
  | "D" => some .day
  | "W" => some .week
  | "M" => some .month
  | "Q" => some .quarter
  | "S" => some .semester
  | "A" => some .annual
  | _ => none

end Period
end Tabular
