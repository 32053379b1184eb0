import Tabular.Script.Expr

set_option autoImplicit false

namespace Tabular

inductive CompileFault where
  | typing (error : TypingError)
  | unresolved (name : String)
  | unknownRuleset (name : String)
  | bindingKind (name expected found : String)
  | unknownComponent (component dataset : String)
  | nameCollision (name : String)
  | operandCount (operator expected : String) (found : Nat)
  | expressionKind (expected found : String)
  | notImplemented (what : String)
  | variableCount (ruleset : String) (declared given : Nat)
  | noRuleComponent (ruleset : String)
  | invalidArgument (operator : String) (fault : ArgumentFault)
  | evaluation (error : EvalError)
  deriving DecidableEq

namespace CompileFault

def message : CompileFault → String
  | .typing error => error.message
  | .unresolved name => s!"Unresolved identifier '{name}'"
  | .unknownRuleset name => s!"Unknown ruleset '{name}'"
  | .bindingKind name expected found => s!"'{name}' is bound to a {found}, expected a {expected}"
  | .unknownComponent component dataset => s!"Component '{component}' not found in {dataset}"
  | .nameCollision name => s!"Component '{name}' already exists"
  | .operandCount operator expected found =>
    s!"Expected {expected} operands to {operator}, found {found}"
  | .expressionKind expected found => s!"Expected a {expected} expression, found a {found}"
  | .notImplemented what => s!"{what} is not implemented"
  | .variableCount ruleset declared given =>
    s!"Invalid ruleset reference: {ruleset} declares {declared} variables, {given} components given"
  | .noRuleComponent ruleset =>
    s!"Invalid ruleset reference: {ruleset} declares no rule component"
  | .invalidArgument operator fault => s!"Invalid argument to {operator}: " ++ fault.message
  | .evaluation error => error.message

/-- Failures that would also show on evaluation keep their meaning. -/
def ofEval : EvalError → CompileFault
  | .model (.duplicateComponent name) => .nameCollision name
  | .notImplemented what => .notImplemented what
  | .invalidArgument function fault => .invalidArgument function fault
  | error => .evaluation error

end CompileFault

inductive CompileError where
  | fault (position : Position) (cause : CompileFault)
  /-- Rulesets apply each other too deeply. -/
  | unfinished
  deriving DecidableEq

def CompileError.message : CompileError → String
  | .fault position cause => cause.message ++ " at " ++ position.render
  | .unfinished => "Rulesets apply each other without end"

namespace Compile

abbrev Result := Except CompileError

variable {α : Type}

def fail (p : Position) (cause : CompileFault) : Result α := .error (.fault p cause)

def located (p : Position) : Except CompileFault α → Result α
  | .ok a => .ok a
  | .error cause => fail p cause

def typing : Except TypingError α → Except CompileFault α
  | .ok a => .ok a
  | .error e => .error (.typing e)

def evaluation : Except EvalError α → Except CompileFault α
  | .ok a => .ok a
  | .error e => .error (.ofEval e)

end Compile
end Tabular
