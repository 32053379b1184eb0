import Tabular.Value.Basic

set_option autoImplicit false

namespace Tabular

inductive ModelError where
  | noIdentifier
  | duplicateComponent (name : String)
  | unknownComponent (name : String)
  | rowArity (row expected actual : Nat)
  | valueType (component : String) (expected : ScalarType) (value : String)
  | duplicateIdentifier (key : Key)
  | unmappedColumn (name : String)
  deriving DecidableEq

def ModelError.message : ModelError → String
  | .noIdentifier => "Data structure has no identifier component"
  | .duplicateComponent name => s!"Component '{name}' is declared more than once"
  | .unknownComponent name => s!"Component '{name}' not contained in data structure"
  | .rowArity row expected actual =>
    s!"Row {row} has {actual} values but the structure declares {expected}"
  | .valueType component expected value =>
    "Value '" ++ value ++ "' of component '" ++ component ++ "' does not conform to type " ++
      expected.name
  | .duplicateIdentifier key => "Duplicate identifier values (" ++ key.render ++ ")"
  | .unmappedColumn name => s!"Column '{name}' does not map to a declared component"

inductive TypingError where
  | operands (operator : String) (types : List (Option ScalarType))
  | operandType (operator : String) (expected found : ScalarType)
  | operandNumeric (operator : String) (found : ScalarType)
  | argumentCount (operator : String) (least most found : Nat)
  | cast (source target : ScalarType)
  deriving DecidableEq

def TypingError.message : TypingError → String
  | .operands operator types =>
    "Operator " ++ operator ++ " cannot be applied to " ++
      ", ".intercalate (types.map ScalarType.describe)
  | .operandType operator expected found =>
    "Expected " ++ expected.name ++ " operand of " ++ operator ++ ", found " ++ found.name
  | .operandNumeric operator found =>
    "Expected numeric operand of " ++ operator ++ ", found " ++ found.name
  | .argumentCount operator least most found =>
    if least = most then s!"Expected {least} arguments to {operator}, found {found}"
    else s!"Expected {least} to {most} arguments to {operator}, found {found}"
  | .cast source target => "Cannot cast " ++ source.name ++ " to " ++ target.name

inductive ArgumentFault where
  | startNotPositive (start : Int)
  | lengthNegative (length : Int)
  | occurrenceNotPositive
  | pattern
  | negative (x : Number)
  | notPositive (x : Number)
  | baseOne
  | renamedTwice (component : String)
  | identifierListed (component : String)
  | identifierOverwritten (component : String)
  | noDatasetOperand
  | noOperands
  | rangeWithoutOrder
  | soleMeasure (dataset expected : String)
  | conditionWithoutMeasure
  | identifierSelected
  | otherStructure (dataset first : String)
  | otherIdentifiers (first other : String)
  | noSharedMeasure
  | operandNotComponent
  | componentOutsideCalc
  | rangeOrder
  | ruleTwice (rule : String)
  | levelNegative (level : Int)
  | notComparison (operator : String)
  | noRightHandCodes
  deriving DecidableEq

def ArgumentFault.message : ArgumentFault → String
  | .startNotPositive start => s!"start {start} is not positive"
  | .lengthNegative length => s!"length {length} is negative"
  | .occurrenceNotPositive => "occurrence must be positive"
  | .pattern => "the pattern is not a regular expression"
  | .negative x => Value.numberLayout.write x ++ " is negative"
  | .notPositive x => Value.numberLayout.write x ++ " is not positive"
  | .baseOne => "base must not be 1"
  | .renamedTwice component => s!"component {component} is renamed twice"
  | .identifierListed component => s!"identifier {component} cannot be listed"
  | .identifierOverwritten component => s!"identifier {component} cannot be overwritten"
  | .noDatasetOperand => "no dataset operand"
  | .noOperands => "no operands"
  | .rangeWithoutOrder => "range window requires an order by component"
  | .soleMeasure dataset expected =>
    s!"dataset {dataset} must have exactly one {expected} measure"
  | .conditionWithoutMeasure => "condition has no measure"
  | .identifierSelected => "identifiers cannot be selected"
  | .otherStructure dataset first => s!"{dataset} does not share the structure of {first}"
  | .otherIdentifiers first other => s!"{first} and {other} have different identifiers"
  | .noSharedMeasure => "operands share no measure"
  | .operandNotComponent => "operand must be a component"
  | .componentOutsideCalc => "component operands are only allowed inside calc"
  | .rangeOrder => "a range window requires exactly one numeric order by component"
  | .ruleTwice rule => s!"rule {rule} is defined twice"
  | .levelNegative level => s!"error level {level} is negative"
  | .notComparison operator => s!"{operator} is not a comparison"
  | .noRightHandCodes => "rule has no right-hand codes"

inductive EvalError where
  | cast (value : String) (target : ScalarType)
  | divisionByZero
  | overflow (operation : String)
  | invalidArgument (function : String) (fault : ArgumentFault)
  | unexpectedValue (expected : ScalarType) (found : String)
  | unsupportedInputMode (mode : String)
  | notMonomeasure (dataset : String)
  | nonNumericMeasure (dataset measure : String)
  | missingRuleComponent (component dataset : String)
  | unbound (name : String)
  | unknownEngine (name : String)
  | notImplemented (what : String)
  | model (error : ModelError)
  deriving DecidableEq

def EvalError.message : EvalError → String
  | .cast value target => "Cannot cast '" ++ value ++ "' to " ++ target.name
  | .divisionByZero => "Division by zero"
  | .overflow operation => s!"Integer overflow in {operation}"
  | .invalidArgument function fault => s!"Invalid argument to {function}: " ++ fault.message
  | .unexpectedValue expected found =>
    "Expected a " ++ expected.name ++ " value, found '" ++ found ++ "'"
  | .unsupportedInputMode mode => s!"{mode} input mode is not supported in check_hierarchy"
  | .notMonomeasure dataset => s!"Dataset {dataset} is not monomeasure"
  | .nonNumericMeasure dataset measure =>
    s!"Dataset {dataset} measure {measure} has to have number type"
  | .missingRuleComponent component dataset =>
    s!"ComponentID {component} not contained in dataset {dataset}"
  | .unbound name => s!"Variable '{name}' is not bound"
  | .unknownEngine name => s!"Unknown processing engine '{name}'"
  | .notImplemented what => s!"{what} is not implemented"
  | .model error => error.message

def liftModel {α : Type} : Except ModelError α → Except EvalError α
  | .ok a => .ok a
  | .error e => .error (.model e)

end Tabular
