import Tabular.Failure
import Tabular.Json.Reader
import Tabular.Json.Writer
import Tabular.Pattern.Matcher

set_option autoImplicit false

namespace Tabular

/-- How the `non_null` validation of a hierarchy treats a rule with missing items. -/
inductive NonNullPolicy where
  | skipIncomplete
  | computeAvailable
  deriving DecidableEq, Repr

def NonNullPolicy.name : NonNullPolicy → String
  | .skipIncomplete => "skip_incomplete"
  | .computeAvailable => "compute_available"

def NonNullPolicy.parse? : String → Option NonNullPolicy
  | "skip_incomplete" => some .skipIncomplete
  | "compute_available" => some .computeAvailable
  | _ => none

structure Config where
  engine : String := "memory"
  nonNullPolicy : NonNullPolicy := .skipIncomplete
  /-- Keep the rule component in the result of a hierarchy check. -/
  keepRuleComponent : Bool := false
  foldConstants : Bool := true
  /-- The language of the patterns in scripts; no setting changes it. -/
  patterns : PatternReader := .standard

inductive ConfigError where
  | parse
  | invalidValue (key value : String)
  deriving DecidableEq, Repr

def ConfigError.message : ConfigError → String
  | .parse => "Failed to parse configuration"
  | .invalidValue key value => s!"Invalid value '{value}' for {key}"

/-- How rows are evaluated. Both ways give the same results in the same order. -/
inductive Engine where
  | memory
  | parallel
  deriving DecidableEq, Repr

def Engine.name : Engine → String
  | .memory => "memory"
  | .parallel => "parallel"

namespace Config

inductive Field where
  | engine
  | nonNullPolicy
  | keepRuleComponent
  | foldConstants
  deriving DecidableEq, Repr

def Field.all : List Field := [.engine, .nonNullPolicy, .keepRuleComponent, .foldConstants]

def Field.name : Field → String
  | .engine => "engine"
  | .nonNullPolicy => "non_null_policy"
  | .keepRuleComponent => "keep_rule_component"
  | .foldConstants => "fold_constants"

def policyOf? : Json → Option NonNullPolicy
  | .string (some s) => NonNullPolicy.parse? s
  | .object [(some s, .null)] => NonNullPolicy.parse? s
  | _ => none

def set? (c : Config) (f : Field) (v : Json) : Option Config :=
  match f, v with
  | .engine, .string (some s) => some { c with engine := s }
  | .nonNullPolicy, v => (policyOf? v).map fun p => { c with nonNullPolicy := p }
  | .keepRuleComponent, .boolean b => some { c with keepRuleComponent := b }
  | .foldConstants, .boolean b => some { c with foldConstants := b }
  | _, _ => none

/-- Reads the fields of an object; `seen` are the fields already given. A name has to be known to
    the last character, even the name of a field that is ignored. -/
def readFields (c : Config) (seen : List Field) : List (Option String × Json) → Option Config
  | [] => some c
  | (none, _) :: _ => none
  | (some name, v) :: rest =>
    match Field.all.find? (·.name == name) with
    | none => readFields c seen rest
    | some f =>
      if seen.contains f then none
      else (c.set? f v).bind fun c => readFields c (f :: seen) rest

def readList (c : Config) : List Field → List Json → Option Config
  | _, [] => some c
  | f :: fs, v :: vs => (c.set? f v).bind fun c => readList c fs vs
  | [], _ :: _ => none

def ofJson? : Json → Option Config
  | .object fields => readFields {} [] fields
  | .list items => readList {} Field.all items
  | _ => none

def parse (text : String) : Except ConfigError Config :=
  match (Json.parse? text).bind ofJson? with
  | some c => .ok c
  | none => .error .parse

def render (c : Config) : String :=
  Json.writeObject [(Field.engine.name, Json.writeString c.engine),
    (Field.nonNullPolicy.name, Json.writeString c.nonNullPolicy.name),
    (Field.keepRuleComponent.name, Json.writeBoolean c.keepRuleComponent),
    (Field.foldConstants.name, Json.writeBoolean c.foldConstants)]

def flag? (text : String) : Option Bool :=
  match String.ofList ((Text.trim text).toList.map Char.toLower) with
  | "1" => some true
  | "true" => some true
  | "yes" => some true
  | "0" => some false
  | "false" => some false
  | "no" => some false
  | _ => none

def engineKey : String := "VTL_ENGINE"

def policyKey : String := "VTL_NON_NULL_POLICY"

def keepKey : String := "VTL_KEEP_RULE_COMPONENT"

def override (c : Config) (lookup : String → Option String) : Except ConfigError Config := do
  let c := match lookup engineKey with
    | some e => { c with engine := Text.trim e }
    | none => c
  let c ← match lookup policyKey with
    | some p =>
      match NonNullPolicy.parse? (Text.trim p) with
      | some p => pure { c with nonNullPolicy := p }
      | none => throw (.invalidValue policyKey p)
    | none => pure c
  match lookup keepKey with
  | some k =>
    match flag? k with
    | some b => pure { c with keepRuleComponent := b }
    | none => throw (.invalidValue keepKey k)
  | none => pure c

def selectEngine (c : Config) : Except EvalError Engine :=
  match c.engine with
  | "memory" => .ok .memory
  | "parallel" => .ok .parallel
  | other => .error (.unknownEngine other)

end Config
end Tabular
