import Tabular.Compile.Error
import Tabular.Plan

set_option autoImplicit false

/-!
# Operations on datasets

An operation on scalars is applied as it is. If some operands are datasets, it is applied to every
measure they share, on rows joined by identifiers. A truth value over a single measure of another
type gets a name of its own.
-/
namespace Tabular.Compile

abbrev Builder := List (Option ScalarType) → Except CompileFault Operation

def scalars (operands : List Compiled) : List Scalar :=
  operands.filterMap fun
    | .scalar e => some e
    | .dataset _ => none

def plans (operands : List Compiled) : List Plan :=
  operands.filterMap fun
    | .scalar _ => none
    | .dataset p => some p

def sameNames (a b : List String) : Bool :=
  a.length == b.length && a.all b.contains

/-- The first dataset whose identifiers are other than those of `first`. -/
def otherIdentifiers? (first : Plan) (rest : List Plan) : Option Plan :=
  rest.find? fun p => !sameNames first.schema.identifierNames p.schema.identifierNames

def sharedMeasures (first : Plan) (all : List Plan) : List Component :=
  first.schema.measures.filter fun m =>
    all.all fun p => (p.schema.get? m.name).any Component.isMeasure

def operandType (measure : String) : Compiled → Option ScalarType
  | .scalar e => e.type?
  | .dataset p => (p.schema.get? measure).map (·.type)

def operandSource (measure : String) : Compiled → Option String
  | .scalar _ => none
  | .dataset _ => some measure

def outputName (alone : Bool) (measure : Component) (op : Operation) : String :=
  if alone && op.result == .boolean && measure.type != .boolean then Report.resultName
  else measure.name

def outputs (build : Builder) (operands : List Compiled) (alone : Bool) :
    List Component → Except CompileFault (List MeasureOutput)
  | [] => .ok []
  | m :: rest => do
    let op ← build (operands.map (operandType m.name))
    let others ← outputs build operands alone rest
    return ⟨outputName alone m op, op, operands.map (operandSource m.name)⟩ :: others

/-- The operation over the measures of datasets, led by the first. -/
def liftOver (build : Builder) (operands : List Compiled) (first : Plan) (rest : List Plan) :
    Except CompileFault Compiled :=
  match otherIdentifiers? first rest with
  | some other =>
    .error (.invalidArgument "dataset operation" (.otherIdentifiers first.name other.name))
  | none =>
    match sharedMeasures first (first :: rest) with
    | [] => .error (.invalidArgument "dataset operation" .noSharedMeasure)
    | measures => do
      let outs ← outputs build operands (measures.length == 1) measures
      let m : MeasureMap := ⟨first.schema.identifiers, outs⟩
      let s ← evaluation (liftModel m.schema)
      return .dataset (.map operands m s)

def lift (build : Builder) (operands : List Compiled) : Except CompileFault Compiled :=
  match plans operands with
  | [] => do
    let op ← build ((scalars operands).map Scalar.type?)
    return .scalar (.apply op (scalars operands))
  | first :: rest => liftOver build operands first rest

end Tabular.Compile
