import Tabular.Dataset.Keyed
import Tabular.Rules.Mode
import Tabular.Scalar

set_option autoImplicit false

namespace Tabular

structure Check where
  code : Scalar
  level : Scalar
  mode : OutputMode

namespace Check

def soleMeasure (s : Schema) (dataset : String) (accept : ScalarType → Bool) (expected : String) :
    Except EvalError Component :=
  match s.soleMeasure? with
  | some m =>
    if accept m.type then .ok m
    else .error (.invalidArgument "check" (.soleMeasure dataset expected))
  | none => .error (.invalidArgument "check" (.soleMeasure dataset expected))

def booleanMeasure (s : Schema) (dataset : String) : Except EvalError Component :=
  soleMeasure s dataset (· == .boolean) "boolean"

def numericMeasure (s : Schema) (dataset : String) : Except EvalError Component :=
  soleMeasure s dataset ScalarType.isNumeric "numeric"

/-- Without an imbalance dataset the imbalance is a number. -/
def schema (condition : Schema) (imbalance : Option ScalarType) : Except ModelError Schema :=
  Schema.ofComponents (condition.identifiers ++
    [Report.result, Report.imbalance (imbalance.getD .number)] ++ Report.errors)

def conditionColumn (s : Schema) : Except EvalError Nat :=
  match s.measures with
  | [] => .error (.invalidArgument "check" .conditionWithoutMeasure)
  | m :: _ => liftModel (s.position m.name)

/-- Imbalances by the identifiers of the condition. Of rows with the same key the last counts. -/
def imbalances (condition : Schema) (imbalance : Option Dataset) : Except EvalError (Keyed Value) :=
  match imbalance with
  | none => .ok []
  | some d => do
    let m ← numericMeasure d.schema "imbalance"
    let column ← liftModel (d.schema.position m.name)
    let ids ← liftModel (d.schema.positions condition.identifierNames)
    return d.rows.reverse.map fun r => (Row.key r ids, Row.cell r column)

/-- Code and level are evaluated only on a row where the condition is false. -/
def errorCells (c : Check) (scope : Scope) (failed : Bool) : Except EvalError (List Value) :=
  if failed then do
    let code ← c.code.eval scope
    let level ← c.level.eval scope
    return [code, level]
  else .ok [.null, .null]

def reportRow (c : Check) (s : Schema) (column : Nat) (others : Keyed Value) (outer : Scope)
    (r : Row) : Except EvalError (Option Row) :=
  let holds := Row.cell r column
  if c.mode.reports holds.boolean? then do
    let key := Row.key r s.identifierIndices
    let errors ← c.errorCells (Scope.ofRow s r outer) (holds.boolean? == some false)
    return some (key ++ [holds, (others.find? key).getD .null] ++ errors)
  else .ok none

def reportRows (c : Check) (s : Schema) (column : Nat) (others : Keyed Value) (outer : Scope) :
    List Row → Except EvalError (List Row)
  | [] => .ok []
  | r :: rest => do
    let row ← c.reportRow s column others outer r
    let rows ← c.reportRows s column others outer rest
    return row.toList ++ rows

def rows (c : Check) (outer : Scope) (condition : Dataset) (imbalance : Option Dataset) :
    Except EvalError (List Row) := do
  let column ← conditionColumn condition.schema
  let others ← imbalances condition.schema imbalance
  c.reportRows condition.schema column others outer condition.rows

def imbalanceType : Option Dataset → Except EvalError (Option ScalarType)
  | none => .ok none
  | some d => do
    let m ← numericMeasure d.schema "imbalance"
    return some m.type

def evaluate (c : Check) (outer : Scope) (condition : Dataset) (imbalance : Option Dataset) :
    Except EvalError Dataset := do
  let type ← imbalanceType imbalance
  let s ← liftModel (schema condition.schema type)
  let rows ← c.rows outer condition imbalance
  return ⟨s, rows⟩

end Check
end Tabular
