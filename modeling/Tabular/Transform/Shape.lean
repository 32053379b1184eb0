import Tabular.Schema
import Tabular.Window.Function

set_option autoImplicit false

namespace Tabular.Schema

structure Column where
  name : String
  role : Role
  type : ScalarType
  deriving DecidableEq, Repr

def checkRenaming (s : Schema) : List String → List (String × String) → Except EvalError Unit
  | _, [] => .ok ()
  | seen, (source, _) :: rest => do
    let _ ← liftModel (s.require source)
    if seen.contains source then .error (.invalidArgument "rename" (.renamedTwice source))
    else s.checkRenaming (source :: seen) rest

def renameComponent (pairs : List (String × String)) (c : Component) : Component :=
  match pairs.find? (·.1 == c.name) with
  | some (_, target) => { c with name := target }
  | none => c

/-- All names are replaced at once, so names can be swapped. -/
def rename (s : Schema) (pairs : List (String × String)) : Except EvalError Schema := do
  s.checkRenaming [] pairs
  liftModel (ofComponents (s.components.map (renameComponent pairs)))

def projectionName (keep : Bool) : String := if keep then "keep" else "drop"

def checkListed (s : Schema) (operator : String) : List String → Except EvalError Unit
  | [] => .ok ()
  | n :: rest => do
    let c ← liftModel (s.require n)
    if c.isIdentifier then .error (.invalidArgument operator (.identifierListed n))
    else s.checkListed operator rest

/-- Keeps or drops the listed components; identifiers always stay. -/
def project (s : Schema) (names : List String) (keep : Bool) : Except EvalError Schema := do
  s.checkListed (projectionName keep) names
  liftModel (ofComponents (s.components.filter fun c =>
    c.isIdentifier || names.contains c.name == keep))

def replaceNamed (c : Component) (cs : List Component) : List Component :=
  cs.map fun d => if d.name = c.name then c else d

/-- The components after the calculations in turn. The source decides whether a name is new. -/
def assign (s : Schema) : List Component → List Column → Except EvalError (List Component)
  | cs, [] => .ok cs
  | cs, col :: rest =>
    let new : Component := ⟨col.name, col.type, col.role, none⟩
    match s.get? col.name with
    | some c =>
      if c.isIdentifier then .error (.invalidArgument "calc" (.identifierOverwritten col.name))
      else s.assign (replaceNamed new cs) rest
    | none =>
      if cs.any (·.name == col.name) then .error (.model (.duplicateComponent col.name))
      else s.assign (cs ++ [new]) rest

def calculate (s : Schema) (columns : List Column) : Except EvalError Schema := do
  let cs ← s.assign s.components columns
  liftModel (ofComponents cs)

def windowColumns (s : Schema) : List WindowCall → Except EvalError (List Column)
  | [] => .ok []
  | c :: rest => do
    let source ← liftModel (s.require c.source)
    let columns ← s.windowColumns rest
    return ⟨c.target, .measure, c.function.result source.type⟩ :: columns

def windowed (s : Schema) (calls : List WindowCall) : Except EvalError Schema := do
  let columns ← s.windowColumns calls
  s.calculate columns

end Tabular.Schema
