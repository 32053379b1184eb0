import Tabular.Schema

set_option autoImplicit false

namespace Tabular

inductive OutputMode where
  /-- Only those that fail. -/
  | invalid
  | all
  /-- All, with every measure of the input. -/
  | allMeasures
  deriving DecidableEq, Repr

namespace OutputMode

def values : List OutputMode := [.invalid, .all, .allMeasures]

def name : OutputMode → String
  | .invalid => "invalid"
  | .all => "all"
  | .allMeasures => "all_measures"

def reports (mode : OutputMode) (holds : Option Bool) : Bool :=
  mode != .invalid || holds == some false

end OutputMode

inductive ValidationMode where
  | nonNull
  | nonZero
  | partialNull
  | partialZero
  | alwaysNull
  | alwaysZero
  deriving DecidableEq, Repr

namespace ValidationMode

def values : List ValidationMode :=
  [.nonNull, .nonZero, .partialNull, .partialZero, .alwaysNull, .alwaysZero]

def name : ValidationMode → String
  | .nonNull => "non_null"
  | .nonZero => "non_zero"
  | .partialNull => "partial_null"
  | .partialZero => "partial_zero"
  | .alwaysNull => "always_null"
  | .alwaysZero => "always_zero"

/-- Whether missing items count as zero rather than null. -/
def substitutesZero : ValidationMode → Bool
  | .nonZero => true
  | .partialZero => true
  | .alwaysZero => true
  | _ => false

end ValidationMode

inductive InputMode where
  | dataset
  | datasetPriority
  deriving DecidableEq, Repr

namespace InputMode

def values : List InputMode := [.dataset, .datasetPriority]

def name : InputMode → String
  | .dataset => "dataset"
  | .datasetPriority => "dataset_priority"

end InputMode

namespace Report

def ruleName : String := "ruleid"

def resultName : String := "bool_var"

def imbalanceName : String := "imbalance"

def codeName : String := "errorcode"

def levelName : String := "errorlevel"

def rule : Component := .identifier ruleName .string

def result : Component := .measure resultName .boolean

def imbalance (type : ScalarType) : Component := .measure imbalanceName type

def errors : List Component := [.measure codeName .string, .measure levelName .integer]

def errorCells (failed : Bool) (code : Option String) (level : Option Int64) : List Value :=
  if failed then [Value.ofOption .string code, Value.ofOption .integer level] else [.null, .null]

end Report
end Tabular
