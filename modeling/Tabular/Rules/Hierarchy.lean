import Tabular.Config
import Tabular.Dataset.Keyed
import Tabular.Operation.Basic
import Tabular.Rules.Mode

set_option autoImplicit false

/-!
# Checking hierarchies of codes

Rows are grouped by all identifiers but one, the rule component, whose values are codes. In a group
every code stands for the measure of its row. A rule compares the value of its left-hand code with
the signed sum of its right-hand codes; the validation mode decides which rules are evaluated where
codes are missing or null, and what a missing code counts for.
-/
namespace Tabular

inductive Sign where
  | plus
  | minus
  deriving DecidableEq, Repr

structure HierarchyItem where
  sign : Sign
  code : String
  deriving DecidableEq, Repr

structure HierarchyRule where
  id : String
  lhs : String
  op : BinaryOp
  rhs : List HierarchyItem
  code : Option String
  level : Option Int64
  deriving DecidableEq, Repr

/-- What is checked: the measure, and the identifier that holds the codes. -/
structure HierarchyTarget where
  measure : String
  type : ScalarType
  component : String
  deriving DecidableEq, Repr

structure HierarchyOptions where
  validation : ValidationMode
  output : OutputMode
  policy : NonNullPolicy
  keepComponent : Bool
  deriving DecidableEq, Repr

/-- Preconditions in order: input mode, a single measure, of numeric type, and the rule component
    among the identifiers. -/
def HierarchyTarget.of (s : Schema) (dataset component : String) (input : InputMode) :
    Except EvalError HierarchyTarget :=
  if input = .datasetPriority then .error (.unsupportedInputMode input.name)
  else
    match s.soleMeasure? with
    | none => .error (.notMonomeasure dataset)
    | some m =>
      if m.type.isNumeric then
        if (s.get? component).any Component.isIdentifier then .ok ⟨m.name, m.type, component⟩
        else .error (.missingRuleComponent component dataset)
      else .error (.nonNumericMeasure dataset m.name)

structure HierarchyResult where
  lhs : Value
  imbalance : Value
  holds : Option Bool
  deriving DecidableEq

structure HierarchyCheck where
  rules : List HierarchyRule
  target : HierarchyTarget
  options : HierarchyOptions

namespace HierarchyCheck

def measureComponents (c : HierarchyCheck) : List Component :=
  if c.options.output = .all then [] else [.measure c.target.measure c.target.type]

def resultComponents (c : HierarchyCheck) : List Component :=
  if c.options.output = .invalid then [] else [Report.result]

def schema (c : HierarchyCheck) (input : Schema) : Except ModelError Schema :=
  Schema.ofComponents
    (input.identifiers.filter (fun i => c.options.keepComponent || i.name != c.target.component) ++
      [Report.rule] ++ c.measureComponents ++ c.resultComponents ++
      [Report.imbalance c.target.type] ++ Report.errors)

def exactSum (sign : Sign) (x y : Int) : Int :=
  match sign with
  | .plus => x + y
  | .minus => x - y

def roundedSum (sign : Sign) (x y : Number) : Number :=
  match sign with
  | .plus => x + y
  | .minus => x - y

/-- Adds or subtracts. Null absorbs, and two integers give an integer or an overflow. -/
def combine (sign : Sign) (a b : Value) : Except EvalError Value :=
  match a, b with
  | .null, _ => .ok .null
  | _, .null => .ok .null
  | .integer x, .integer y =>
    match Integer.check (exactSum sign x.toInt y.toInt) with
    | some i => .ok (.integer i)
    | none => .error (.overflow "check_hierarchy")
  | a, b =>
    match a.number?, b.number? with
    | some x, some y => .ok (.number (roundedSum sign x y))
    | _, _ => .error (.unexpectedValue .number (a.render ++ ", " ++ b.render))

/-- The signed sum of items, from `acc` on, with `missing` for those that are not there. -/
def total (missing : Value) : Value → List (Sign × Option Value) → Except EvalError Value
  | acc, [] => .ok acc
  | acc, (sign, v) :: rest => do
    let acc ← combine sign acc (v.getD missing)
    total missing acc rest

/-- Whether the mode evaluates a rule with these items. -/
def emits (o : HierarchyOptions) (lhs : Option Value) (rhs : List (Option Value)) : Bool :=
  let present := (lhs :: rhs).filterMap id
  match o.validation with
  | .nonNull =>
    match o.policy with
    | .skipIncomplete => (lhs :: rhs).all Option.isSome && present.all (!·.isNull)
    | .computeAvailable => lhs.isSome && rhs.any Option.isSome
  | .nonZero => present.any fun v => v.isNull || !v.isZero
  | .partialNull => present.any (!·.isNull)
  | .partialZero => present.any (!·.isNull)
  | .alwaysNull => true
  | .alwaysZero => true

/-- What a missing left-hand code counts for. -/
def missingLeft (o : HierarchyOptions) (type : ScalarType) : Value :=
  if o.validation.substitutesZero then .zero type else .null

def missingRight (o : HierarchyOptions) (type : ScalarType) : Value :=
  if o.validation = .nonNull ∧ o.policy = .computeAvailable then .zero type
  else missingLeft o type

def compareSides (op : BinaryOp) (lhs rhs : Value) : Option Bool :=
  if lhs.isNull || rhs.isNull then none else some (op.holds (lhs.order rhs))

/-- The outcome of a rule, unless the mode passes it over; `value` gives the value of a code. -/
def evaluateRule (o : HierarchyOptions) (type : ScalarType) (value : String → Option Value)
    (rule : HierarchyRule) : Except EvalError (Option HierarchyResult) :=
  let lhs := value rule.lhs
  let rhs := rule.rhs.map fun i => (i.sign, value i.code)
  if emits o lhs (rhs.map (·.2)) then do
    let left := lhs.getD (missingLeft o type)
    let right ← total (missingRight o type) (.zero type) rhs
    let imbalance ← combine .minus left right
    return some ⟨left, imbalance, compareSides rule.op left right⟩
  else .ok none

/-- Where codes and measures stand in a row, and which columns a group shares. -/
structure Columns where
  codeColumn : Nat
  measureColumn : Nat
  shared : List Nat

def columns (c : HierarchyCheck) (input : Schema) : Except ModelError Columns := do
  let code ← input.position c.target.component
  let measure ← input.position c.target.measure
  return ⟨code, measure, input.identifierIndices.filter (· != code)⟩

def groups (k : Columns) (rows : List Row) : Keyed (List Row) :=
  Keyed.group (fun r => Row.key r k.shared)
    (rows.filter fun r => !(Row.cell r k.codeColumn).isNull)

/-- The measure of the last row in the group that carries the code. -/
def codeValue (k : Columns) (members : List Row) (code : String) : Option Value :=
  (members.reverse.find? fun r => (Row.cell r k.codeColumn).render == code).map
    (Row.cell · k.measureColumn)

/-- A code as a value of its component, or else as a string. -/
def codeCell (type : ScalarType) (code : String) : Value :=
  (Value.parse? type code).getD (.string code)

def identifierCells (c : HierarchyCheck) (input : Schema) (k : Columns) (first : Row)
    (rule : HierarchyRule) : List Value :=
  input.identifierIndices.flatMap fun i =>
    if i = k.codeColumn then
      if c.options.keepComponent then
        [codeCell ((input.components[i]?.map (·.type)).getD .string) rule.lhs]
      else []
    else [Row.cell first i]

def reportRow (c : HierarchyCheck) (input : Schema) (k : Columns) (first : Row)
    (rule : HierarchyRule) (result : HierarchyResult) : Row :=
  c.identifierCells input k first rule ++ [.string rule.id] ++
    (if c.options.output = .all then [] else [result.lhs]) ++
    (if c.options.output = .invalid then [] else [Value.ofOption .boolean result.holds]) ++
    [result.imbalance] ++ Report.errorCells (result.holds == some false) rule.code rule.level

def reportRule (c : HierarchyCheck) (input : Schema) (k : Columns) (members : List Row)
    (rule : HierarchyRule) : Except EvalError (Option Row) := do
  match ← evaluateRule c.options c.target.type (codeValue k members) rule with
  | none => return none
  | some result =>
    if c.options.output.reports result.holds then
      return some (c.reportRow input k (members.headD []) rule result)
    else return none

def reportGroup (c : HierarchyCheck) (input : Schema) (k : Columns) (members : List Row) :
    List HierarchyRule → Except EvalError (List Row)
  | [] => .ok []
  | rule :: rest => do
    let row ← c.reportRule input k members rule
    let rows ← c.reportGroup input k members rest
    return row.toList ++ rows

def reportGroups (c : HierarchyCheck) (input : Schema) (k : Columns) :
    Keyed (List Row) → Except EvalError (List Row)
  | [] => .ok []
  | (_, members) :: rest => do
    let reports ← c.reportGroup input k members c.rules
    let rows ← c.reportGroups input k rest
    return reports ++ rows

/-- Groups in order of first appearance, rules in their order inside a group. -/
def rows (c : HierarchyCheck) (d : Dataset) : Except EvalError (List Row) := do
  let k ← liftModel (c.columns d.schema)
  c.reportGroups d.schema k (groups k d.rows)

def evaluate (c : HierarchyCheck) (d : Dataset) : Except EvalError Dataset := do
  let s ← liftModel (c.schema d.schema)
  let rows ← c.rows d
  return ⟨s, rows⟩

end HierarchyCheck
end Tabular
