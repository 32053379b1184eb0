import Tabular.Script.Ruleset
import Tabular.Scalar

set_option autoImplicit false

namespace Tabular

inductive Binding where
  | scalar (type : Option ScalarType) (value : Value)
  | dataset (d : Dataset)
  | datapointRuleset (r : DatapointRuleset)
  | hierarchicalRuleset (r : HierarchicalRuleset)

namespace Binding

def ofValue (v : Value) : Binding := .scalar v.type? v

def kind : Binding → String
  | .scalar _ _ => "scalar"
  | .dataset _ => "dataset"
  | .datapointRuleset _ => "datapoint ruleset"
  | .hierarchicalRuleset _ => "hierarchical ruleset"

end Binding

structure Context where
  entries : List (String × Binding) := []

namespace Context

def empty : Context := {}

def get? (c : Context) (name : String) : Option Binding :=
  (c.entries.find? (·.1 == name)).map (·.2)

def contains (c : Context) (name : String) : Bool := (c.get? name).isSome

def names (c : Context) : List String := c.entries.map (·.1)

/-- Replaces the binding of a name in its place, or appends it. -/
def setIn (name : String) (b : Binding) : List (String × Binding) → List (String × Binding)
  | [] => [(name, b)]
  | (n, old) :: rest => if n = name then (n, b) :: rest else (n, old) :: setIn name b rest

def set (c : Context) (name : String) (b : Binding) : Context := ⟨setIn name b c.entries⟩

@[simp] theorem get?_set_self (c : Context) (name : String) (b : Binding) :
    (c.set name b).get? name = some b := by
  obtain ⟨entries⟩ := c
  induction entries with
  | nil => simp [set, setIn, get?]
  | cons e rest ih =>
    obtain ⟨n, old⟩ := e
    by_cases h : n = name
    · simp [set, setIn, get?, h]
    · simpa [set, setIn, get?, h] using ih

theorem get?_set_of_ne (c : Context) {name other : String} (b : Binding) (h : other ≠ name) :
    (c.set name b).get? other = c.get? other := by
  obtain ⟨entries⟩ := c
  induction entries with
  | nil => simp [set, setIn, get?, Ne.symm h]
  | cons e rest ih =>
    obtain ⟨n, old⟩ := e
    by_cases hn : n = name
    · simp [set, setIn, get?, hn, Ne.symm h]
    · by_cases ho : n = other
      · subst ho
        simp [set, setIn, get?, h]
      · simpa [set, setIn, get?, hn, ho] using ih

def remove (c : Context) (name : String) : Context := ⟨c.entries.filter (·.1 != name)⟩

def dataset? (c : Context) (name : String) : Option Dataset :=
  match c.get? name with
  | some (.dataset d) => some d
  | _ => none

def scalar? (c : Context) (name : String) : Option Value :=
  match c.get? name with
  | some (.scalar _ v) => some v
  | _ => none

def scope (c : Context) (today : Date) : Scope := ⟨c.scalar?, today⟩

end Context
end Tabular
