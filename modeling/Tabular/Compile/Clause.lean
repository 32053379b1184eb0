import Tabular.Compile.Error
import Tabular.Plan

set_option autoImplicit false

namespace Tabular.Compile

def selectPlan (source : Plan) (component : String) : Except CompileFault Plan :=
  match source.schema.get? component with
  | none => .error (.unknownComponent component source.name)
  | some c =>
    if c.isIdentifier then .error (.invalidArgument "#" .identifierSelected)
    else do
      let s ← evaluation (source.schema.project [component] true)
      return .project source [component] true s

def requireComponents (source : Plan) (names : List String) : Except CompileFault Unit :=
  match names.find? fun n => !source.schema.contains n with
  | some missing => .error (.unknownComponent missing source.name)
  | none => .ok ()

def projectPlan (source : Plan) (names : List String) (keep : Bool) : Except CompileFault Plan := do
  requireComponents source names
  let s ← evaluation (source.schema.project names keep)
  return .project source names keep s

def renamePlan (source : Plan) (pairs : List (String × String)) : Except CompileFault Plan := do
  requireComponents source (pairs.map (·.1))
  let s ← evaluation (source.schema.rename pairs)
  return .rename source pairs s

def combinePlan (op : SetOp) (operands : List Plan) : Except CompileFault Plan :=
  match operands with
  | [] => .error (.operandCount op.name op.arityText 0)
  | first :: rest =>
    match rest.find? fun p => !first.schema.compatible p.schema with
    | some other => .error (.invalidArgument op.name (.otherStructure other.name first.name))
    | none => .ok (.combine op operands first.schema)

/-- A range window needs one order component, of numeric type. -/
def hasRangeOrder (s : Schema) (orderBy : List OrderItem) : Bool :=
  match orderBy with
  | [only] => (s.get? only.component).any (·.type.isNumeric)
  | _ => false

def checkWindow (f : WindowFunction) (s : Schema) (extent : Extent) : Except CompileFault Unit :=
  match extent.window with
  | some (.range _) =>
    if hasRangeOrder s extent.orderBy then .ok () else .error (.invalidArgument f.name .rangeOrder)
  | _ => .ok ()

def windowCall (f : WindowFunction) (component target : String) (extent : Extent) (source : Plan) :
    Except CompileFault WindowCall :=
  if f.isImplemented then
    match source.schema.get? component with
    | none => .error (.unknownComponent component source.name)
    | some c => do
      if f.requiresNumeric then typing (Typing.expectNumeric f.name (some c.type))
      requireComponents source (extent.partitionBy ++ extent.orderBy.map (·.component))
      checkWindow f source.schema extent
      return ⟨f, component, target, extent.partitionBy, extent.orderBy, extent.window⟩
  else .error (.notImplemented f.name)

def windowCalls (f : WindowFunction) (extent : Extent) (source : Plan) :
    List Component → Except CompileFault (List WindowCall)
  | [] => .ok []
  | c :: rest => do
    let call ← windowCall f c.name c.name extent source
    let calls ← windowCalls f extent source rest
    return call :: calls

def attributeNames (s : Schema) : List String :=
  (s.components.filter (·.role == .attribute)).map (·.name)

def windowPlan (f : WindowFunction) (extent : Extent) (source : Plan) :
    Except CompileFault Plan := do
  let calls ← windowCalls f extent source source.schema.measures
  let attributes := attributeNames source.schema
  let staged ← evaluation (source.schema.windowed calls)
  let s ← evaluation (staged.project attributes false)
  return .windowed source calls attributes s

/-- The name of the column that holds the `n`-th window result inside a calculation. -/
def scratchName (n : Nat) : String := s!"$analytic_{n}"

structure Calculated where
  column : CalcColumn
  call : Option WindowCall

def itemRole (s : Schema) (name : String) (role : Option Role) : Role :=
  match role with
  | some r => r
  | none => ((s.get? name).map (·.role)).getD .measure

def checkItem (s : Schema) (name : String) : Except CompileFault Unit :=
  if (s.get? name).any Component.isIdentifier then
    .error (.invalidArgument "calc" (.identifierOverwritten name))
  else .ok ()

/-- An item that is a window function on a component; its result is read from a scratch column. -/
def windowItem (source : Plan) (name : String) (role : Option Role) (n : Nat) (f : WindowFunction)
    (component : String) (extent : Extent) : Except CompileFault Calculated := do
  let call ← windowCall f component (scratchName n) extent source
  let measure := ((source.schema.get? component).map (·.type)).getD .number
  return ⟨⟨name, itemRole source.schema name role, .read (scratchName n) (f.result measure)⟩,
    some call⟩

def calculatePlan (source : Plan) (items : List Calculated) : Except CompileFault Plan := do
  let calls := items.filterMap (·.call)
  let columns := items.map (·.column)
  let staged ← evaluation (source.schema.windowed calls)
  let assigned ← evaluation (staged.calculate (columns.map (·.column)))
  let s ← evaluation (assigned.project (calls.map (·.target)) false)
  return .calculate source calls columns s

end Tabular.Compile
