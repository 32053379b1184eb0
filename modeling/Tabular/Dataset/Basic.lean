import Tabular.Schema
import Tabular.Sorting

set_option autoImplicit false

/-!
# Datasets

A dataset is a schema and a list of rows. `ofRows` admits only rows that have the schema's arity and
types and distinct identifier keys; rows taken on trust may break all of that, so reading past the
end of a row gives null.
-/
namespace Tabular

abbrev Row := List Value

namespace Row

/-- The value in a column; null past the end. -/
def cell (r : Row) (i : Nat) : Value := r.getD i .null

def project (r : Row) (indices : List Nat) : Row := indices.map r.cell

def key (r : Row) (indices : List Nat) : Key := indices.map r.cell

end Row

structure Dataset where
  schema : Schema
  rows : List Row
  deriving DecidableEq

def Schema.checkValues : List Component → Row → Except ModelError Unit
  | c :: cs, v :: vs =>
    if v.conforms c.type then checkValues cs vs
    else .error (.valueType c.name c.type v.render)
  | _, _ => .ok ()

def Schema.checkRow (s : Schema) (n : Nat) (r : Row) : Except ModelError Unit :=
  if r.length = s.size then checkValues s.components r
  else .error (.rowArity n s.size r.length)

def Schema.checkRows (s : Schema) : Nat → List Key → List Row → Except ModelError Unit
  | _, _, [] => .ok ()
  | n, seen, r :: rest => do
    s.checkRow n r
    let key := Row.key r s.identifierIndices
    if seen.any (Key.same · key) then .error (.duplicateIdentifier key)
    else s.checkRows (n + 1) (key :: seen) rest

namespace Dataset

def ofRows (s : Schema) (rows : List Row) : Except ModelError Dataset := do
  s.checkRows 0 [] rows
  return ⟨s, rows⟩

def empty (s : Schema) : Dataset := ⟨s, []⟩

def rowKey (d : Dataset) (r : Row) : Key := Row.key r d.schema.identifierIndices

def column? (d : Dataset) (name : String) : Option (List Value) :=
  (d.schema.indexOf? name).map fun i => d.rows.map (Row.cell · i)

def orderBy : List Nat → Row → Row → Ordering
  | [], _, _ => .eq
  | i :: is, r, s => ((Row.cell r i).order (Row.cell s i)).then (orderBy is r s)

/-- Rows by identifier key, for texts that do not depend on the order of rows. -/
def sortedRows (d : Dataset) : List Row :=
  Sorting.sort (orderBy d.schema.identifierIndices) d.rows

def records (d : Dataset) : List (List (String × Value)) :=
  d.sortedRows.map fun r => d.schema.names.zip r

def rowsWithin (rows others : List Row) : Bool :=
  rows.all fun r => others.any (Key.same r)

/-- The same components in any order and the same set of rows. -/
def same (d e : Dataset) : Bool :=
  d.schema.compatible e.schema && rowsWithin d.rows e.rows && rowsWithin e.rows d.rows

end Dataset
end Tabular
