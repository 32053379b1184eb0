import Tabular.Compile.Error
import Tabular.Plan

set_option autoImplicit false

namespace Tabular.Compile

/-- Names visible as values of the current row: the visible name, the component and its type. -/
abbrev Frame := List (String × (String × ScalarType))

namespace Frame

def ofSchema (s : Schema) : Frame := s.components.map fun c => (c.name, (c.name, c.type))

def get? (f : Frame) (name : String) : Option (String × ScalarType) :=
  (List.find? (fun e => e.1 == name) f).map (·.2)

end Frame

def variableComponent? (domain : RulesetDomain) (s : Schema) (v : RuleVariable)
    (given : Option String) : Option Component :=
  match given, domain with
  | some name, _ => s.get? name
  | none, .components => s.get? v.source
  | none, .valueDomains => s.byDomain? v.source

/-- A visible name must not hide another component of the dataset. -/
def bindVariable (domain : RulesetDomain) (source : Plan) (v : RuleVariable)
    (given : Option String) : Except CompileFault (String × (String × ScalarType)) :=
  match variableComponent? domain source.schema v given with
  | none => .error (.unknownComponent (given.getD v.source) source.name)
  | some c =>
    if v.visible != c.name && source.schema.contains v.visible then
      .error (.nameCollision v.visible)
    else .ok (v.visible, (c.name, c.type))

/-- Variables with the components given for them in order. Of equal names the last counts. -/
def bindVariables (domain : RulesetDomain) (source : Plan) (frame : Frame) :
    List RuleVariable → List String → Except CompileFault Frame
  | [], _ => .ok frame
  | v :: rest, given => do
    let entry ← bindVariable domain source v given.head?
    bindVariables domain source (entry :: frame.filter (·.1 != entry.1)) rest given.tail

/-- The frame of a ruleset applied to a dataset. Components are given for all variables or none. -/
def rulesetFrame (rs : DatapointRuleset) (source : Plan) (components : List String) :
    Except CompileFault Frame :=
  if !components.isEmpty && components.length != rs.vars.length then
    .error (.variableCount rs.name rs.vars.length components.length)
  else bindVariables rs.domain source [] rs.vars components

def declaredMeasures (s : Schema) (frame : Frame) : List String :=
  (s.measures.map (·.name)).filter fun m => frame.any (·.2.1 == m)

def checkDatapointPlan (source : Plan) (frame : Frame) (rules : List RowRule) (mode : OutputMode) :
    Except CompileFault Plan := do
  let check : DatapointCheck := ⟨rules, declaredMeasures source.schema frame, mode⟩
  let s ← evaluation (liftModel (check.schema source.schema))
  return .checkDatapoint source check s

def imbalanceType : Option Plan → Except CompileFault (Option ScalarType)
  | none => .ok none
  | some p => do
    let m ← evaluation (Check.numericMeasure p.schema p.name)
    return some m.type

def checkPlan (condition : Plan) (imbalance : Option Plan) (type : Option ScalarType)
    (code level : Scalar) (invalid : Bool) : Except CompileFault Plan := do
  let s ← evaluation (liftModel (Check.schema condition.schema type))
  return .check condition imbalance ⟨code, level, if invalid then .invalid else .all⟩ s

def ruleComponent (rs : HierarchicalRuleset) (s : Schema) (given : Option String) :
    Except CompileFault String :=
  match given, rs.codes, rs.domain with
  | some name, _, _ => .ok name
  | none, some name, .components => .ok name
  | none, some domain, .valueDomains => .ok (((s.byDomain? domain).map (·.name)).getD domain)
  | none, none, _ => .error (.noRuleComponent rs.name)

def checkHierarchyPlan (config : Config) (source : Plan) (rs : HierarchicalRuleset)
    (given : Option String) (validation : ValidationMode) (input : InputMode)
    (output : OutputMode) : Except CompileFault Plan := do
  let component ← ruleComponent rs source.schema given
  let target ← evaluation (HierarchyTarget.of source.schema source.name component input)
  let options : HierarchyOptions :=
    ⟨validation, output, config.nonNullPolicy, config.keepRuleComponent⟩
  let check : HierarchyCheck := ⟨rs.rules, target, options⟩
  let s ← evaluation (liftModel (check.schema source.schema))
  return .checkHierarchy source check s

end Tabular.Compile
