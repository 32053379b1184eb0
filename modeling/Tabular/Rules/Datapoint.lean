import Tabular.Rules.Mode
import Tabular.Scalar

set_option autoImplicit false

namespace Tabular

/-- A rule on rows. Where the antecedent is not true the rule holds. -/
structure RowRule where
  id : String
  antecedent : Option Scalar
  consequent : Scalar
  code : Option String
  level : Option Int64

def RowRule.evaluate (r : RowRule) (s : Scope) : Except EvalError Value :=
  match r.antecedent with
  | none => r.consequent.eval s
  | some a => do
    let v ← a.eval s
    if v.boolean? = some true then r.consequent.eval s else return .boolean true

structure DatapointCheck where
  rules : List RowRule
  measures : List String
  mode : OutputMode

namespace DatapointCheck

def reported (c : DatapointCheck) (input : Schema) : List Component :=
  input.measures.filter fun m => c.mode == .allMeasures || c.measures.contains m.name

def resultComponents (mode : OutputMode) : List Component :=
  if mode = .invalid then [] else [Report.result]

def schema (c : DatapointCheck) (input : Schema) : Except ModelError Schema :=
  Schema.ofComponents (input.identifiers ++ [Report.rule] ++ c.reported input ++
    resultComponents c.mode ++ Report.errors)

def keptIndices (input out : Schema) : List Nat :=
  Schema.indicesFrom (fun m => m.isMeasure && out.contains m.name) 0 input.components

def reportRule (c : DatapointCheck) (input : Schema) (kept : List Nat) (scope : Scope) (r : Row)
    (rule : RowRule) : Except EvalError (Option Row) := do
  let result ← rule.evaluate scope
  if c.mode.reports result.boolean? then
    let shown := if c.mode = .invalid then [] else [result]
    let errors := Report.errorCells (result.boolean? == some false) rule.code rule.level
    return some (Row.key r input.identifierIndices ++ [.string rule.id] ++ Row.project r kept ++
      shown ++ errors)
  else return none

def reportRules (c : DatapointCheck) (input : Schema) (kept : List Nat) (scope : Scope) (r : Row) :
    List RowRule → Except EvalError (List Row)
  | [] => .ok []
  | rule :: rest => do
    let row ← c.reportRule input kept scope r rule
    let rows ← c.reportRules input kept scope r rest
    return row.toList ++ rows

def reportRows (c : DatapointCheck) (input : Schema) (kept : List Nat) (outer : Scope) :
    List Row → Except EvalError (List Row)
  | [] => .ok []
  | r :: rest => do
    let reports ← c.reportRules input kept (Scope.ofRow input r outer) r c.rules
    let rows ← c.reportRows input kept outer rest
    return reports ++ rows

def evaluate (c : DatapointCheck) (outer : Scope) (d : Dataset) : Except EvalError Dataset := do
  let out ← liftModel (c.schema d.schema)
  let rows ← c.reportRows d.schema (keptIndices d.schema out) outer d.rows
  return ⟨out, rows⟩

end DatapointCheck
end Tabular
