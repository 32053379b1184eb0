import Tabular.Failure

set_option autoImplicit false

namespace Tabular

structure Component where
  name : String
  type : ScalarType
  role : Role
  /-- The value domain the values are drawn from. -/
  domain : Option String := none
  deriving DecidableEq, Repr

namespace Component

def isIdentifier (c : Component) : Bool := c.role == .identifier

def isMeasure (c : Component) : Bool := c.role == .measure

def identifier (name : String) (type : ScalarType) : Component := ⟨name, type, .identifier, none⟩

def measure (name : String) (type : ScalarType) : Component := ⟨name, type, .measure, none⟩

end Component

structure Schema where
  components : List Component
  nodup : (components.map (·.name)).Nodup
  identified : components.any Component.isIdentifier = true
  deriving DecidableEq

namespace Schema

def firstRepeated : List String → List String → Option String
  | _, [] => none
  | seen, n :: rest => if seen.contains n then some n else firstRepeated (n :: seen) rest

theorem firstRepeated_eq_none {seen names : List String} (h : firstRepeated seen names = none) :
    names.Nodup ∧ ∀ n ∈ names, n ∉ seen := by
  induction names generalizing seen with
  | nil => simp
  | cons n rest ih =>
    unfold firstRepeated at h
    split at h
    · cases h
    · rename_i hn
      have hs : n ∉ seen := by simpa using hn
      obtain ⟨hd, hr⟩ := ih h
      refine ⟨List.nodup_cons.2 ⟨fun hm => hr n hm (List.mem_cons_self ..), hd⟩, ?_⟩
      intro m hm
      rcases List.mem_cons.1 hm with rfl | hm
      · exact hs
      · exact fun hc => hr m hm (List.mem_cons_of_mem _ hc)

/-- The schema of these components; a repeated name is reported before a missing identifier. -/
def ofComponents (cs : List Component) : Except ModelError Schema :=
  match h : firstRepeated [] (cs.map (·.name)) with
  | some n => .error (.duplicateComponent n)
  | none =>
    if hi : cs.any Component.isIdentifier = true then
      .ok ⟨cs, (firstRepeated_eq_none h).1, hi⟩
    else .error .noIdentifier

theorem components_of_ofComponents {cs : List Component} {s : Schema}
    (h : ofComponents cs = .ok s) : s.components = cs := by
  unfold ofComponents at h
  split at h
  · cases h
  · split at h
    · cases h
      rfl
    · cases h

def size (s : Schema) : Nat := s.components.length

def names (s : Schema) : List String := s.components.map (·.name)

def get? (s : Schema) (name : String) : Option Component :=
  s.components.find? (·.name == name)

def contains (s : Schema) (name : String) : Bool := (s.get? name).isSome

def indexOf? (s : Schema) (name : String) : Option Nat :=
  s.components.findIdx? (·.name == name)

def require (s : Schema) (name : String) : Except ModelError Component :=
  match s.get? name with
  | some c => .ok c
  | none => .error (.unknownComponent name)

def position (s : Schema) (name : String) : Except ModelError Nat :=
  match s.indexOf? name with
  | some i => .ok i
  | none => .error (.unknownComponent name)

def positions (s : Schema) : List String → Except ModelError (List Nat)
  | [] => .ok []
  | n :: ns => do
    let i ← s.position n
    let is ← s.positions ns
    return i :: is

def identifiers (s : Schema) : List Component := s.components.filter Component.isIdentifier

def measures (s : Schema) : List Component := s.components.filter Component.isMeasure

def identifierNames (s : Schema) : List String := s.identifiers.map (·.name)

def indicesFrom (p : Component → Bool) : Nat → List Component → List Nat
  | _, [] => []
  | i, c :: cs => if p c then i :: indicesFrom p (i + 1) cs else indicesFrom p (i + 1) cs

def identifierIndices (s : Schema) : List Nat := indicesFrom Component.isIdentifier 0 s.components

def byDomain? (s : Schema) (domain : String) : Option Component :=
  s.components.find? (·.domain == some domain)

def soleMeasure? (s : Schema) : Option Component :=
  match s.measures with
  | [m] => some m
  | _ => none

/-- The same components, in any order. -/
def compatible (s t : Schema) : Bool :=
  s.size == t.size && s.components.all fun c => t.get? c.name == some c

end Schema
end Tabular
