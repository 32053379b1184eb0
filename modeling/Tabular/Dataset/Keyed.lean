import Tabular.Dataset.Basic

set_option autoImplicit false

namespace Tabular

abbrev Keyed (α : Type) := List (Key × α)

namespace Keyed

variable {α : Type}

def find? (m : Keyed α) (k : Key) : Option α := (List.find? (fun p => Key.same p.1 k) m).map (·.2)

def contains (m : Keyed α) (k : Key) : Bool := m.any fun p => Key.same p.1 k

/-- Replaces what is held under the key, or appends. -/
def insert : Keyed α → Key → α → Keyed α
  | [], k, a => [(k, a)]
  | (k', b) :: rest, k, a =>
    if Key.same k' k then (k', a) :: rest else (k', b) :: insert rest k a

/-- Appends, unless something is held under the key already. -/
def insertNew (m : Keyed α) (k : Key) (a : α) : Keyed α :=
  if m.contains k then m else m ++ [(k, a)]

def ofList (xs : List (Key × α)) : Keyed α := xs.foldl (fun m p => m.insert p.1 p.2) []

def push : Keyed (List α) → Key → α → Keyed (List α)
  | [], k, a => [(k, [a])]
  | (k', as) :: rest, k, a =>
    if Key.same k' k then (k', as ++ [a]) :: rest else (k', as) :: push rest k a

/-- The elements grouped by key, groups and members in order of first appearance. -/
def group (key : α → Key) (xs : List α) : Keyed (List α) :=
  xs.foldl (fun m a => push m (key a) a) []

end Keyed
end Tabular
