import Tabular.Dataset.Keyed
import Tabular.Window.Aggregate
import Tabular.Window.Frame

set_option autoImplicit false

/-!
# Evaluating window functions

Rows are grouped into partitions, each partition is sorted stably, every row's frame is found there,
and the function is applied to the source values in the frame. Results come in the order of the
input rows.
-/
namespace Tabular.Window

abbrev Member := Nat × Row

/-- Sort columns, with true for descending ones. -/
abbrev SortColumns := List (Nat × Bool)

def compareRows : SortColumns → Row → Row → Ordering
  | [], _, _ => .eq
  | (i, descending) :: rest, r, s =>
    let o := (Row.cell r i).order (Row.cell s i)
    (if descending then o.swap else o).then (compareRows rest r s)

/-- Without a window the frame is the whole partition, or runs up to the current row when the
    partition is ordered. -/
def effective (w : Option Window) (ordered : Bool) : Option Window :=
  match w with
  | some w => some w
  | none => if ordered then some (.points ⟨Int64.minValue, 0⟩) else none

def frameOf (w : Option Window) (descending : Bool) (keys : List (Option Number)) (len pos : Nat) :
    Frame :=
  match w with
  | none => ⟨0, len⟩
  | some (.points b) => pointsFrame pos len b
  | some (.range b) => rangeFrame keys pos b descending

def evaluateFrom (f : WindowFunction) (measure : ScalarType) (source : Nat) (sorted : List Member)
    (frame : Nat → Frame) : Nat → List Member → Except EvalError (List (Nat × Value))
  | _, [] => .ok []
  | pos, (i, _) :: rest => do
    let v ← f.aggregate (((frame pos).slice sorted).map fun m => Row.cell m.2 source) measure
    let vs ← evaluateFrom f measure source sorted frame (pos + 1) rest
    return (i, v) :: vs

/-- The order keys of a sorted partition; only a range needs them, and it needs an order. -/
def rangeKeys (f : WindowFunction) (w : Option Window) (columns : SortColumns)
    (sorted : List Member) : Except EvalError (List (Option Number)) :=
  match w, columns with
  | some (.range _), [] => .error (.invalidArgument f.name .rangeWithoutOrder)
  | some (.range _), (i, _) :: _ => .ok (sorted.map fun m => (Row.cell m.2 i).number?)
  | _, _ => .ok []

def evaluatePartition (c : WindowCall) (measure : ScalarType) (source : Nat)
    (columns : SortColumns) (members : List Member) : Except EvalError (List (Nat × Value)) := do
  let sorted := Sorting.sort (fun m n => compareRows columns m.2 n.2) members
  let w := effective c.window (!columns.isEmpty)
  let keys ← rangeKeys c.function w columns sorted
  let descending := columns.head?.any (·.2)
  evaluateFrom c.function measure source sorted (frameOf w descending keys sorted.length) 0 sorted

def evaluatePartitions (c : WindowCall) (measure : ScalarType) (source : Nat)
    (columns : SortColumns) : Keyed (List Member) → Except EvalError (List (Nat × Value))
  | [] => .ok []
  | (_, members) :: rest => do
    let vs ← evaluatePartition c measure source columns members
    let ws ← evaluatePartitions c measure source columns rest
    return vs ++ ws

def number (rows : List Row) : List Member := (List.range rows.length).zip rows

def arrange (len : Nat) (results : List (Nat × Value)) : List Value :=
  (List.range len).map fun i => ((results.find? (·.1 == i)).map (·.2)).getD .null

def sortColumns (s : Schema) : List OrderItem → Except ModelError SortColumns
  | [] => .ok []
  | o :: os => do
    let i ← s.position o.component
    let rest ← sortColumns s os
    return (i, o.descending) :: rest

def evaluate (rows : List Row) (s : Schema) (c : WindowCall) : Except EvalError (List Value) := do
  let source ← liftModel (s.position c.source)
  let measure := (s.components[source]?.map (·.type)).getD .number
  let partitionColumns ← liftModel (s.positions c.partitionBy)
  let columns ← liftModel (sortColumns s c.orderBy)
  let partitions := Keyed.group (fun m => Row.key m.2 partitionColumns) (number rows)
  let results ← evaluatePartitions c measure source columns partitions
  return arrange rows.length results

end Tabular.Window
