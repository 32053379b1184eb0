import Tabular.Dataset.Basic

set_option autoImplicit false

namespace Tabular.Dataset

structure RowFailure where
  row : Nat
  error : ModelError

structure Loaded where
  dataset : Dataset
  failures : List RowFailure

def Loaded.isClean (l : Loaded) : Bool := l.failures.isEmpty

def mapHeader (s : Schema) : List Nat → List String → Except ModelError (List Nat)
  | _, [] => .ok []
  | seen, name :: rest =>
    match s.indexOf? name with
    | none => .error (.unmappedColumn name)
    | some i =>
      if seen.contains i then .error (.duplicateComponent name)
      else do
        let is ← mapHeader s (i :: seen) rest
        return i :: is

/-- Puts parsed cells into a row of nulls; an empty cell is null. -/
def fillCells (s : Schema) : Row → List (Nat × String) → Except ModelError Row
  | r, [] => .ok r
  | r, (i, text) :: rest =>
    if text.isEmpty then fillCells s r rest
    else
      match s.components[i]? with
      | none => fillCells s r rest
      | some c =>
        match Value.parse? c.type text with
        | some v => fillCells s (r.set i v) rest
        | none => .error (.valueType c.name c.type text)

def parseRow (s : Schema) (header : List Nat) (n : Nat) (cells : List String) :
    Except ModelError Row :=
  if cells.length = header.length then
    fillCells s (List.replicate s.size .null) (header.zip cells)
  else .error (.rowArity n header.length cells.length)

/-- Loads rows from number `n` on, after rows with the keys `seen`. -/
def loadRows (s : Schema) (header : List Nat) :
    Nat → List Key → List (List String) → List Row × List RowFailure
  | _, _, [] => ([], [])
  | n, seen, cells :: rest =>
    match parseRow s header n cells with
    | .error e =>
      let (rows, failures) := loadRows s header (n + 1) seen rest
      (rows, ⟨n, e⟩ :: failures)
    | .ok r =>
      let key := Row.key r s.identifierIndices
      if seen.any (Key.same · key) then
        let (rows, failures) := loadRows s header (n + 1) seen rest
        (rows, ⟨n, .duplicateIdentifier key⟩ :: failures)
      else
        let (rows, failures) := loadRows s header (n + 1) (key :: seen) rest
        (r :: rows, failures)

def load (s : Schema) (header : List String) (cells : List (List String)) :
    Except ModelError Loaded := do
  let columns ← mapHeader s [] header
  let (rows, failures) := loadRows s columns 0 [] cells
  return ⟨⟨s, rows⟩, failures⟩

end Tabular.Dataset
