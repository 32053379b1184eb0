import Tabular.Sorting
import Tabular.Window.Function

set_option autoImplicit false

namespace Tabular.WindowFunction

/-- The least value, the first of several equal ones. -/
def least : List Value → Option Value
  | [] => none
  | v :: vs => some (vs.foldl (fun a b => if a.order b = .gt then b else a) v)

/-- The greatest value, the last of several equal ones. -/
def greatest : List Value → Option Value
  | [] => none
  | v :: vs => some (vs.foldl (fun a b => if a.order b = .gt then a else b) v)

def sumNumbers (xs : List Number) : Number := xs.foldl (· + ·) (-0.0)

/-- Adds up from `acc`, refusing a partial sum that is out of range. -/
def sumIntegers : Int64 → List Int64 → Option Int64
  | acc, [] => some acc
  | acc, i :: is => (Integer.check (acc.toInt + i.toInt)).bind fun acc => sumIntegers acc is

def mean (xs : List Number) : Number := sumNumbers xs / Number.ofNat xs.length

def squares (xs : List Number) : Number :=
  let m := mean xs
  sumNumbers (xs.map fun x => (x - m) * (x - m))

def middle (xs : List Number) : Number :=
  let sorted := Sorting.sort Number.order xs
  let mid := sorted.length / 2
  if sorted.length % 2 = 0 then (sorted.getD (mid - 1) 0.0 + sorted.getD mid 0.0) / 2.0
  else sorted.getD mid 0.0

def variancePop (xs : List Number) : Number := squares xs / Number.ofNat xs.length

def varianceSamp (xs : List Number) : Number := squares xs / (Number.ofNat xs.length - 1.0)

def sampled (xs : List Number) (f : List Number → Number) : Value :=
  if xs.length < 2 then .null else .number (f xs)

def aggregateNumbers (f : WindowFunction) (frame : List Value) (xs : List Number)
    (measure : ScalarType) : Except EvalError Value :=
  match f with
  | .sum =>
    if measure = .integer then
      match sumIntegers 0 (frame.filterMap Value.integer?) with
      | some i => .ok (.integer i)
      | none => .error (.overflow "sum")
    else .ok (.number (sumNumbers xs))
  | .avg => .ok (.number (mean xs))
  | .median => .ok (.number (middle xs))
  | .varPop => .ok (.number (variancePop xs))
  | .stddevPop => .ok (.number (variancePop xs).sqrt)
  | .varSamp => .ok (sampled xs varianceSamp)
  | .stddevSamp => .ok (sampled xs fun xs => (varianceSamp xs).sqrt)
  | f => .error (.notImplemented f.name)

def aggregate (f : WindowFunction) (frame : List Value) (measure : ScalarType) :
    Except EvalError Value :=
  match f with
  | .count => .ok (.integer (Int64.ofNat frame.length))
  | .firstValue => .ok (frame.head?.getD .null)
  | .lastValue => .ok (frame.getLast?.getD .null)
  | .min => .ok ((least (frame.filter fun v => !v.isNull)).getD .null)
  | .max => .ok ((greatest (frame.filter fun v => !v.isNull)).getD .null)
  | f =>
    let xs := frame.filterMap Value.number?
    if xs.isEmpty then .ok .null else aggregateNumbers f frame xs measure

end Tabular.WindowFunction
