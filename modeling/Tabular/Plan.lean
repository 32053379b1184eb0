import Tabular.Context
import Tabular.Rules.Check
import Tabular.Rules.Datapoint
import Tabular.Transform.Join
import Tabular.Transform.Rows

set_option autoImplicit false

/-!
# Plans

A plan is a checked dataset expression with a structure known in advance. It is evaluated in a
context, in which the datasets it names are looked up again.
-/
namespace Tabular

mutual

inductive Plan where
  | named (name : String) (schema : Schema)
  | constant (d : Dataset)
  /-- The same dataset under a name of its own in messages. -/
  | labelled (label : String) (source : Plan)
  | rename (source : Plan) (pairs : List (String × String)) (schema : Schema)
  | project (source : Plan) (names : List String) (keep : Bool) (schema : Schema)
  | filter (source : Plan) (condition : Scalar)
  /-- Window functions first, into columns of their own that the calculated columns can read and
      that are dropped in the end. -/
  | calculate (source : Plan) (calls : List WindowCall) (columns : List CalcColumn)
      (schema : Schema)
  /-- Window functions in place of the measures; attributes are dropped. -/
  | windowed (source : Plan) (calls : List WindowCall) (attributes : List String)
      (schema : Schema)
  | map (operands : List Compiled) (outputs : MeasureMap) (schema : Schema)
  | combine (op : SetOp) (operands : List Plan) (schema : Schema)
  | checkDatapoint (source : Plan) (check : DatapointCheck) (schema : Schema)
  | check (condition : Plan) (imbalance : Option Plan) (check : Check) (schema : Schema)
  | checkHierarchy (source : Plan) (check : HierarchyCheck) (schema : Schema)

/-- A checked expression of either kind. -/
inductive Compiled where
  | scalar (e : Scalar)
  | dataset (p : Plan)

end

namespace Plan

def schema : Plan → Schema
  | .named _ s => s
  | .constant d => d.schema
  | .labelled _ p => p.schema
  | .rename _ _ s => s
  | .project _ _ _ s => s
  | .filter p _ => p.schema
  | .calculate _ _ _ s => s
  | .windowed _ _ _ s => s
  | .map _ _ s => s
  | .combine _ _ s => s
  | .checkDatapoint _ _ s => s
  | .check _ _ _ s => s
  | .checkHierarchy _ _ s => s

def name : Plan → String
  | .named n _ => n
  | .labelled l _ => l
  | _ => "expression"

end Plan

/-- Calculated columns beside window columns, which are dropped again. -/
def Dataset.calculateOver (d : Dataset) (calls : List WindowCall) (columns : List CalcColumn)
    (outer : Scope) : Except EvalError Dataset :=
  if calls.isEmpty then d.calculate columns outer
  else do
    let staged ← d.windowed calls
    let assigned ← staged.calculate columns outer
    assigned.project (calls.map (·.target)) false

def Dataset.windowedOver (d : Dataset) (calls : List WindowCall) (attributes : List String) :
    Except EvalError Dataset := do
  let staged ← d.windowed calls
  if attributes.isEmpty then return staged else staged.project attributes false

mutual

def Plan.eval (c : Context) (today : Date) : Plan → Except EvalError Dataset
  | .named n _ =>
    match c.dataset? n with
    | some d => .ok d
    | none => .error (.unbound n)
  | .constant d => .ok d
  | .labelled _ p => p.eval c today
  | .rename p pairs _ => do
    let d ← p.eval c today
    d.rename pairs
  | .project p names keep _ => do
    let d ← p.eval c today
    d.project names keep
  | .filter p condition => do
    let d ← p.eval c today
    d.filter condition (c.scope today)
  | .calculate p calls columns _ => do
    let d ← p.eval c today
    d.calculateOver calls columns (c.scope today)
  | .windowed p calls attributes _ => do
    let d ← p.eval c today
    d.windowedOver calls attributes
  | .map operands outputs _ => do
    let values ← Compiled.evalAll c today operands
    outputs.evaluate today values
  | .combine op operands _ => do
    let ds ← Plan.evalAll c today operands
    op.evaluate ds
  | .checkDatapoint p check _ => do
    let d ← p.eval c today
    check.evaluate (c.scope today) d
  | .check p imbalance check _ => do
    let d ← p.eval c today
    let other ← Plan.evalOption c today imbalance
    check.evaluate (c.scope today) d other
  | .checkHierarchy p check _ => do
    let d ← p.eval c today
    check.evaluate d

def Plan.evalAll (c : Context) (today : Date) : List Plan → Except EvalError (List Dataset)
  | [] => .ok []
  | p :: rest => do
    let d ← p.eval c today
    let ds ← Plan.evalAll c today rest
    return d :: ds

def Plan.evalOption (c : Context) (today : Date) : Option Plan → Except EvalError (Option Dataset)
  | none => .ok none
  | some p => do
    let d ← p.eval c today
    return some d

def Compiled.eval (c : Context) (today : Date) : Compiled → Except EvalError Operand
  | .scalar e => do
    let v ← e.eval (c.scope today)
    return .scalar v
  | .dataset p => do
    let d ← p.eval c today
    return .dataset d

def Compiled.evalAll (c : Context) (today : Date) :
    List Compiled → Except EvalError (List Operand)
  | [] => .ok []
  | e :: rest => do
    let o ← e.eval c today
    let os ← Compiled.evalAll c today rest
    return o :: os

end

theorem Plan.eval_named {c : Context} {n : String} {d : Dataset}
    (h : c.get? n = some (.dataset d)) (today : Date) (s : Schema) :
    (Plan.named n s).eval c today = .ok d := by
  rw [eval, Context.dataset?, h]

end Tabular
