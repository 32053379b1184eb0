import Tabular.Failure

set_option autoImplicit false

namespace Tabular

inductive WindowFunction where
  | sum
  | avg
  | count
  | median
  | min
  | max
  | stddevPop
  | stddevSamp
  | varPop
  | varSamp
  | firstValue
  | lastValue
  | lag
  | lead
  | ratioToReport
  deriving DecidableEq, Repr

namespace WindowFunction

def all : List WindowFunction :=
  [.sum, .avg, .count, .median, .min, .max, .stddevPop, .stddevSamp, .varPop, .varSamp,
   .firstValue, .lastValue, .lag, .lead, .ratioToReport]

def name : WindowFunction → String
  | .sum => "sum"
  | .avg => "avg"
  | .count => "count"
  | .median => "median"
  | .min => "min"
  | .max => "max"
  | .stddevPop => "stddev_pop"
  | .stddevSamp => "stddev_samp"
  | .varPop => "var_pop"
  | .varSamp => "var_samp"
  | .firstValue => "first_value"
  | .lastValue => "last_value"
  | .lag => "lag"
  | .lead => "lead"
  | .ratioToReport => "ratio_to_report"

/-- Some functions have a name and a type but no meaning yet. -/
def isImplemented : WindowFunction → Bool
  | .lag => false
  | .lead => false
  | .ratioToReport => false
  | _ => true

def requiresNumeric : WindowFunction → Bool
  | .count => false
  | .min => false
  | .max => false
  | .firstValue => false
  | .lastValue => false
  | _ => true

def result (f : WindowFunction) (measure : ScalarType) : ScalarType :=
  match f with
  | .count => .integer
  | .avg => .number
  | .median => .number
  | .stddevPop => .number
  | .stddevSamp => .number
  | .varPop => .number
  | .varSamp => .number
  | .ratioToReport => .number
  | _ => measure

end WindowFunction

/-- The ends of a window relative to the current row. The least and the greatest 64-bit integer
    stand for no end. -/
structure Bounds where
  first : Int64
  last : Int64
  deriving DecidableEq, Repr

inductive Window where
  /-- Offsets in rows. -/
  | points (b : Bounds)
  /-- Offsets from the order key of the current row. -/
  | range (b : Bounds)
  deriving DecidableEq, Repr

structure OrderItem where
  component : String
  descending : Bool := false
  deriving DecidableEq, Repr

structure WindowCall where
  function : WindowFunction
  source : String
  target : String
  partitionBy : List String := []
  orderBy : List OrderItem := []
  window : Option Window := none
  deriving DecidableEq, Repr

end Tabular
