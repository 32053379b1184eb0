import Tabular.Compile.Call
import Tabular.Compile.Clause
import Tabular.Compile.Lift
import Tabular.Compile.Validation

set_option autoImplicit false

/-!
# Compiling expressions

An expression is checked and becomes a scalar expression or a plan. Names stand for components of
the innermost frame and, failing that, for what the context binds. No row is read.

Applying a datapoint ruleset compiles the rules of the ruleset, and these can apply rulesets in
turn. `compileWithin` limits the depth of that; everything else is recursion on the expression.
-/
namespace Tabular.Compile

structure Env where
  context : Context
  config : Config

/-- How the rules of a ruleset are compiled, in the frame of its variables. -/
abbrev RuleCompiler := Frame → Expr → Result Compiled

def asScalar (p : Position) : Compiled → Result Scalar
  | .scalar e => .ok e
  | .dataset _ => fail p (.expressionKind "scalar" "dataset")

def asPlan (p : Position) : Compiled → Result Plan
  | .dataset d => .ok d
  | .scalar _ => fail p (.expressionKind "dataset" "scalar")

def known? : Compiled → Option Value
  | .scalar e => e.known?
  | .dataset _ => none

def Env.name (env : Env) (frame : Frame) (n : String) : Except CompileFault Compiled :=
  match frame.get? n with
  | some (component, type) => .ok (.scalar (.read component type))
  | none =>
    match env.context.get? n with
    | some (.scalar type v) => .ok (.scalar (.literal v type))
    | some (.dataset d) => .ok (.dataset (.named n d.schema))
    | some b => .error (.bindingKind n "value" b.kind)
    | none => .error (.unresolved n)

def Env.datapointRuleset (env : Env) (n : String) : Except CompileFault DatapointRuleset :=
  match env.context.get? n with
  | some (.datapointRuleset rs) => .ok rs
  | some b => .error (.bindingKind n "datapoint ruleset" b.kind)
  | none => .error (.unknownRuleset n)

def Env.hierarchicalRuleset (env : Env) (n : String) : Except CompileFault HierarchicalRuleset :=
  match env.context.get? n with
  | some (.hierarchicalRuleset rs) => .ok rs
  | some b => .error (.bindingKind n "hierarchical ruleset" b.kind)
  | none => .error (.unknownRuleset n)

def Env.fold (env : Env) : Compiled → Compiled
  | .scalar e => .scalar (if env.config.foldConstants then e.fold else e)
  | .dataset p => .dataset p

def Env.lift (env : Env) (build : Builder) (operands : List Compiled) :
    Except CompileFault Compiled := do
  let c ← Compile.lift build operands
  return env.fold c

def unaryBuilder (op : UnaryOp) : Builder := fun types =>
  typing (Operation.unary op (types.getD 0 none))

def binaryBuilder (op : BinaryOp) : Builder := fun types =>
  typing (Operation.binary op (types.getD 0 none) (types.getD 1 none))

def castBuilder (target : ScalarType) : Builder := fun types => do
  typing (Typing.cast (types.getD 0 none) target)
  return .cast target

def memberBuilder (set : List Value) (negated : Bool) : Builder := fun types =>
  typing (Operation.memberOf (types.getD 0 none) set negated)

/-- The truth value that decides a connective by itself, if the connective has one. -/
def dominant? : BinaryOp → Option Bool
  | .logic .and => some false
  | .logic .or => some true
  | _ => none

/-- Conjunction and disjunction of scalars leave out the right operand where the left decides. -/
def Env.binary (env : Env) (op : BinaryOp) (l r : Compiled) : Except CompileFault Compiled :=
  match dominant? op, l, r with
  | some dominant, .scalar a, .scalar b => do
    let _ ← typing (Operation.binary op a.type? b.type?)
    return env.fold (.scalar (.shortCircuit dominant a b))
  | _, _, _ => env.lift (binaryBuilder op) [l, r]

def widenBranch (type : Option ScalarType) (e : Scalar) : Scalar :=
  if type = some .number ∧ e.type? = some .integer then .apply (.cast .number) [e] else e

def Env.conditional (env : Env) (test yes no : Scalar) : Except CompileFault Compiled := do
  typing (Typing.expect "if-then-else" test.type? .boolean)
  let type ← typing (Typing.unify "if-then-else" [yes.type?, no.type?])
  return env.fold (.scalar (.conditional test (widenBranch type yes) (widenBranch type no) type))

def booleanRule (compile : Expr → Result Compiled) (id : String) (e : Expr) : Result Scalar := do
  let c ← compile e
  let s ← asScalar e.position c
  located e.position (typing (Typing.expect id s.type? .boolean))
  return s

def antecedent (compile : Expr → Result Compiled) (id : String) :
    Option Expr → Result (Option Scalar)
  | none => .ok none
  | some e => do
    let s ← booleanRule compile id e
    return some s

def rowRules (compile : Expr → Result Compiled) : List DatapointRule → Result (List RowRule)
  | [] => .ok []
  | r :: rest => do
    let a ← antecedent compile r.id r.antecedent
    let c ← booleanRule compile r.id r.consequent
    let rules ← rowRules compile rest
    return ⟨r.id, a, c, r.code, r.level⟩ :: rules

mutual

def expr (env : Env) (rules : RuleCompiler) (frame : Frame) : Expr → Result Compiled
  | .literal _ v => .ok (.scalar (.ofValue v))
  | .name p n => located p (env.name frame n)
  | .unary p op e => do
    let a ← expr env rules frame e
    located p (env.lift (unaryBuilder op) [a])
  | .binary p op l r => do
    let a ← expr env rules frame l
    let b ← expr env rules frame r
    located p (env.binary op a b)
  | .conditional p t y n => do
    let test ← expr env rules frame t >>= asScalar t.position
    let yes ← expr env rules frame y >>= asScalar y.position
    let no ← expr env rules frame n >>= asScalar n.position
    located p (env.conditional test yes no)
  | .cast p e target => do
    let a ← expr env rules frame e
    located p (env.lift (castBuilder target) [a])
  | .call p (.timeSeries f) _ => fail p (.notImplemented f.name)
  | .call p (.scalar f) args => do
    let as ← exprs env rules frame args
    located p (env.lift (fun types => f.operation env.config.patterns types (as.map known?)) as)
  | .member p e set negated => do
    let a ← expr env rules frame e
    located p (env.lift (memberBuilder set negated) [a])
  | .select p e component => do
    let source ← expr env rules frame e >>= asPlan e.position
    let plan ← located p (selectPlan source component)
    return .dataset plan
  | .filter _ e condition => do
    let source ← expr env rules frame e >>= asPlan e.position
    let inner := Frame.ofSchema source.schema
    let c ← expr env rules inner condition >>= asScalar condition.position
    located condition.position (typing (Typing.expect "filter" c.type? .boolean))
    return .dataset (.filter source c)
  | .keep p e names => do
    let source ← expr env rules frame e >>= asPlan e.position
    let plan ← located p (projectPlan source names true)
    return .dataset plan
  | .drop p e names => do
    let source ← expr env rules frame e >>= asPlan e.position
    let plan ← located p (projectPlan source names false)
    return .dataset plan
  | .rename p e pairs => do
    let source ← expr env rules frame e >>= asPlan e.position
    let plan ← located p (renamePlan source pairs)
    return .dataset plan
  | .calculate p e items => do
    let source ← expr env rules frame e >>= asPlan e.position
    let calculated ← calcItems env rules source 0 items
    let plan ← located p (calculatePlan source calculated)
    return .dataset plan
  | .combine p op es =>
    if op.admits es.length then do
      let operands ← planExprs env rules frame es
      let plan ← located p (combinePlan op operands)
      return .dataset plan
    else fail p (.operandCount op.name op.arityText es.length)
  | .window p f e extent => do
    let c ← expr env rules frame e
    match c with
    | .scalar _ => fail p (.invalidArgument f.name .componentOutsideCalc)
    | .dataset source =>
      let plan ← located p (windowPlan f extent source)
      return .dataset plan
  | .checkDatapoint p e ruleset components mode => do
    let source ← expr env rules frame e >>= asPlan e.position
    let rs ← located p (env.datapointRuleset ruleset)
    let inner ← located p (rulesetFrame rs source components)
    let compiled ← rowRules (rules inner) rs.rules
    let plan ← located p (checkDatapointPlan source inner compiled mode)
    return .dataset plan
  | .check p e code level imbalance invalid => do
    let condition ← expr env rules frame e >>= asPlan e.position
    let _ ← located p (evaluation (Check.booleanMeasure condition.schema condition.name))
    let other ← planExpr? env rules frame imbalance
    let type ← located p (imbalanceType other)
    let c ← optionalScalar env rules frame .string code
    let l ← optionalScalar env rules frame .integer level
    let plan ← located p (checkPlan condition other type c l invalid)
    return .dataset plan
  | .checkHierarchy p e ruleset component validation input output => do
    let source ← expr env rules frame e >>= asPlan e.position
    let rs ← located p (env.hierarchicalRuleset ruleset)
    let plan ← located p
      (checkHierarchyPlan env.config source rs component validation input output)
    return .dataset plan

def exprs (env : Env) (rules : RuleCompiler) (frame : Frame) : List Expr → Result (List Compiled)
  | [] => .ok []
  | e :: rest => do
    let a ← expr env rules frame e
    let as ← exprs env rules frame rest
    return a :: as

def planExprs (env : Env) (rules : RuleCompiler) (frame : Frame) : List Expr → Result (List Plan)
  | [] => .ok []
  | e :: rest => do
    let d ← expr env rules frame e >>= asPlan e.position
    let ds ← planExprs env rules frame rest
    return d :: ds

def planExpr? (env : Env) (rules : RuleCompiler) (frame : Frame) :
    Option Expr → Result (Option Plan)
  | none => .ok none
  | some e => do
    let d ← expr env rules frame e >>= asPlan e.position
    return some d

/-- A scalar of the given type; a missing one is a null of that type. -/
def optionalScalar (env : Env) (rules : RuleCompiler) (frame : Frame) (type : ScalarType) :
    Option Expr → Result Scalar
  | none => .ok (.literal .null (some type))
  | some e => do
    let s ← expr env rules frame e >>= asScalar e.position
    located e.position (typing (Typing.expect "check" s.type? type))
    return s

/-- The items of a calculation, of which `n` window functions have been seen. Each sees the
    components of the source. -/
def calcItems (env : Env) (rules : RuleCompiler) (source : Plan) (n : Nat) :
    List CalcItem → Result (List Calculated)
  | [] => .ok []
  | .mk name role e :: rest => do
    located e.position (checkItem source.schema name)
    match e with
    | .window p f operand extent =>
      match operand with
      | .name _ component =>
        let item ← located p (windowItem source name role n f component extent)
        let items ← calcItems env rules source (n + 1) rest
        return item :: items
      | other => fail other.position (.invalidArgument f.name .operandNotComponent)
    | e =>
      let s ← expr env rules (Frame.ofSchema source.schema) e >>= asScalar e.position
      let items ← calcItems env rules source n rest
      return ⟨⟨name, itemRole source.schema name role, s⟩, none⟩ :: items

end

/-- Compiles with at most `depth` rulesets applied inside each other. -/
def compileWithin (env : Env) : Nat → RuleCompiler
  | 0 => fun _ _ => .error .unfinished
  | depth + 1 => fun frame e => expr env (compileWithin env depth) frame e

/-- A ruleset is compiled in one way for each choice of types for its variables. -/
def rulesetDepth : Binding → Nat
  | .datapointRuleset rs => Nat.pow 6 rs.vars.length
  | _ => 0

def depthBound (c : Context) : Nat := c.entries.foldr (fun e n => rulesetDepth e.2 + n) 1

def compile (env : Env) (e : Expr) : Result Compiled :=
  compileWithin env (depthBound env.context) [] e

end Tabular.Compile
