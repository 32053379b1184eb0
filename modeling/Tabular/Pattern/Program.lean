import Tabular.Pattern.Basic

set_option autoImplicit false

namespace Tabular

inductive Node where
  | accept
  | read (set : CharSet) (next : Nat)
  | check (anchor : Anchor) (next : Nat)
  | fork (left right : Nat)
  deriving DecidableEq, Repr

abbrev Program := Array Node

namespace Program

abbrev Entry := Program × Nat

def add (p : Program) (n : Node) : Entry :=
  let place := p.size
  (p.push n, place)

def iterate (step : Program → Nat → Entry) : Nat → Program → Nat → Entry
  | 0, prog, next => (prog, next)
  | n + 1, prog, next =>
    let (prog, next) := step prog next
    iterate step n prog next

/-- Adds the nodes that match a pattern and go on at `next`. -/
def emit : Pattern → Program → Nat → Entry
  | .empty, prog, next => (prog, next)
  | .text cs, prog, next =>
    cs.foldr (fun c (prog, next) => prog.add (.read (.single c) next)) (prog, next)
  | .set s, prog, next => prog.add (.read s next)
  | .anchor a, prog, next => prog.add (.check a next)
  | .group _ p, prog, next => emit p prog next
  | .seq p q, prog, next =>
    let (prog, middle) := emit q prog next
    emit p prog middle
  | .alt p q, prog, next =>
    let (prog, left) := emit p prog next
    let (prog, right) := emit q prog next
    prog.add (.fork left right)
  | .many p least (some most) _, prog, next =>
    let option (prog : Program) (rest : Nat) : Entry :=
      let (prog, body) := emit p prog rest
      prog.add (.fork body next)
    let (prog, tail) := iterate option (most - least) prog next
    iterate (emit p) least prog tail
  | .many p least none _, prog, next =>
    let (prog, loop) := prog.add (.fork next next)
    let (prog, body) := emit p prog loop
    iterate (emit p) least (prog.setIfInBounds loop (.fork body next)) loop

def ofPattern (p : Pattern) : Entry :=
  let (prog, finish) := add #[] .accept
  emit p prog finish

structure Reached where
  accepted : Bool
  /-- The sets of characters that lead on, and where to. -/
  reads : List (CharSet × Nat)
  /-- The position, counted from one, at which a node was last visited. -/
  visited : Array Nat

/-- Follows the program from the nodes of `stack` without reading. Every node is visited once at a
    position and adds at most two to the stack, which bounds `fuel`. -/
def follow (p : Program) (place : Place) (position : Nat) :
    Nat → List Nat → List (CharSet × Nat) → Array Nat → Reached
  | 0, _, reads, visited => ⟨false, reads, visited⟩
  | _, [], reads, visited => ⟨false, reads, visited⟩
  | fuel + 1, i :: stack, reads, visited =>
    if visited.getD i position == position then follow p place position fuel stack reads visited
    else
      let visited := visited.setIfInBounds i position
      match p[i]? with
      | some .accept => ⟨true, reads, visited⟩
      | some (.read s next) => follow p place position fuel stack ((s, next) :: reads) visited
      | some (.check a next) =>
        let stack := if a.holds place then next :: stack else stack
        follow p place position fuel stack reads visited
      | some (.fork l r) => follow p place position fuel (l :: r :: stack) reads visited
      | none => follow p place position fuel stack reads visited

/-- Whether a match that has begun at one of the nodes, or begins at the entry from here on, comes
    to an end. -/
def runFrom (e : Entry) (before : Option Char) (position : Nat) (nodes : List Nat)
    (visited : Array Nat) : List Char → Bool
  | [] =>
    (follow e.1 ⟨before, none⟩ position (fuel nodes) (e.2 :: nodes) [] visited).accepted
  | c :: rest =>
    let found := follow e.1 ⟨before, some c⟩ position (fuel nodes) (e.2 :: nodes) [] visited
    if found.accepted then true
    else
      let nodes := found.reads.filterMap fun (s, next) => if s.contains c then some next else none
      runFrom e (some c) (position + 1) nodes found.visited rest
where
  fuel (nodes : List Nat) : Nat := nodes.length + 2 * e.1.size + 2

end Program

def Pattern.occursIn (p : Pattern) (text : String) : Bool :=
  let e := Program.ofPattern p
  Program.runFrom e none 1 [] (Array.replicate e.1.size 0) text.toList

end Tabular
