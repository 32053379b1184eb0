import Tabular.Pattern.CharSet

set_option autoImplicit false

/-!
# Regular expressions

Patterns are built by `sequence`, `alternation` and `repeated`, which bring them to a normal form:
sequences and alternations are flat and lean to the right, neighbouring texts are joined, branches
that are all single characters or all sets become one set, and branches that begin with the same
patterns share them. The normal form decides how much room a pattern takes.
-/
namespace Tabular

inductive WordEdge where
  | boundary
  | inside
  | start
  | finish
  | startHalf
  | finishHalf
  deriving DecidableEq, Repr

/-- A condition on a position. A line ends before a line feed; in the `return` forms also before a
    carriage return, and never between the two. -/
inductive Anchor where
  | start
  | finish
  | lineStart
  | lineFinish
  | returnStart
  | returnFinish
  | word (ascii : Bool) (edge : WordEdge)
  deriving DecidableEq, Repr

structure Place where
  before : Option Char
  after : Option Char
  deriving DecidableEq, Repr

def WordEdge.holds (e : WordEdge) (before after : Bool) : Bool :=
  match e with
  | .boundary => before != after
  | .inside => before == after
  | .start => !before && after
  | .finish => before && !after
  | .startHalf => !before
  | .finishHalf => !after

def Anchor.holds (a : Anchor) (p : Place) : Bool :=
  match a with
  | .start => p.before.isNone
  | .finish => p.after.isNone
  | .lineStart => p.before.all (· == '\n')
  | .lineFinish => p.after.all (· == '\n')
  | .returnStart => p.before.all fun c => c == '\n' || (c == '\r' && p.after != some '\n')
  | .returnFinish => p.after.all fun c => c == '\r' || (c == '\n' && p.before != some '\r')
  | .word ascii edge =>
    let words := if ascii then CharSet.asciiWords else CharSet.words
    edge.holds (p.before.any words.contains) (p.after.any words.contains)

/-- A regular expression. Groups keep their number and repetitions whether they prefer few rounds,
    which makes patterns different without changing what they match. -/
inductive Pattern where
  | empty
  | text (cs : List Char)
  | set (s : CharSet)
  | anchor (a : Anchor)
  | many (p : Pattern) (least : Nat) (most : Option Nat) (lazy : Bool)
  | group (index : Nat) (p : Pattern)
  | seq (p q : Pattern)
  | alt (p q : Pattern)
  deriving DecidableEq, Repr

namespace Pattern

/-- The least number of characters in a match, if there can be a match. -/
def shortest? : Pattern → Option Nat
  | .empty => some 0
  | .text cs => some cs.length
  | .set s => if s.isEmpty then none else some 1
  | .anchor _ => some 0
  | .many p least _ _ => p.shortest?.map (least * ·)
  | .group _ p => p.shortest?
  | .seq p q => p.shortest?.bind fun m => q.shortest?.map (m + ·)
  | .alt p q => p.shortest?.bind fun m => q.shortest?.map (min m)

/-- The greatest number of characters in a match, if that is bounded. -/
def longest? : Pattern → Option Nat
  | .empty => some 0
  | .text cs => some cs.length
  | .set s => if s.isEmpty then none else some 1
  | .anchor _ => some 0
  | .many p _ most _ => most.bind fun n => p.longest?.map (n * ·)
  | .group _ p => p.longest?
  | .seq p q => p.longest?.bind fun m => q.longest?.map (m + ·)
  | .alt p q => p.longest?.bind fun m => q.longest?.map (max m)

def beginsWith (a : Anchor) : Pattern → Bool
  | .anchor b => a == b
  | .many p least _ _ => 0 < least && p.beginsWith a
  | .group _ p => p.beginsWith a
  | .seq p q => p.beginsWith a || (p.longest? == some 0 && q.beginsWith a)
  | .alt p q => p.beginsWith a && q.beginsWith a
  | _ => false

def endsWith (a : Anchor) : Pattern → Bool
  | .anchor b => a == b
  | .many p least _ _ => 0 < least && p.endsWith a
  | .group _ p => p.endsWith a
  | .seq p q => q.endsWith a || (q.longest? == some 0 && p.endsWith a)
  | .alt p q => p.endsWith a && q.endsWith a
  | _ => false

def ofSet (s : CharSet) : Pattern :=
  match s.sole? with
  | some c => .text [c]
  | none => .set s

/-- A pattern that never matches more than nothing is repeated at most once. -/
def repeated (p : Pattern) (least : Nat) (most : Option Nat) (lazy : Bool) : Pattern :=
  let (least, most) :=
    if p.longest? = some 0 then (min least 1, some (min (most.getD 1) 1)) else (least, most)
  if most = some 0 then .empty
  else if least = 1 ∧ most = some 1 then p
  else .many p least most lazy

def parts : Pattern → List Pattern
  | .empty => []
  | .seq p q => parts p ++ parts q
  | p => [p]

def putBefore (p : Pattern) (ps : List Pattern) : List Pattern :=
  match p, ps with
  | .text a, .text b :: rest => .text (a ++ b) :: rest
  | p, ps => p :: ps

def join (f : Pattern → Pattern → Pattern) (none : Pattern) (ps : List Pattern) : Pattern :=
  match ps.reverse with
  | [] => none
  | last :: front => front.foldl (fun acc p => f p acc) last

def sequence (ps : List Pattern) : Pattern :=
  join .seq .empty ((ps.flatMap parts).foldr putBefore [])

def branches : Pattern → List Pattern
  | .alt p q => branches p ++ branches q
  | p => [p]

def characters? : List Pattern → Option CharSet
  | [] => some .empty
  | .text [c] :: ps => (characters? ps).map fun s => s.union (.single c)
  | _ => none

/-- The union of the branches, if each is a set. -/
def sets? : List Pattern → Option CharSet
  | [] => some .empty
  | .set s :: ps => (sets? ps).map fun t => t.union s
  | _ => none

def shared : List Pattern → List Pattern → List Pattern
  | p :: ps, q :: qs => if p = q then p :: shared ps qs else []
  | _, _ => []

/-- The parts with which all branches begin; a branch has to be a proper sequence. -/
def sharedParts : List Pattern → List Pattern
  | [] => []
  | [p] => sequenceParts p
  | p :: ps => shared (sequenceParts p) (sharedParts ps)
where
  sequenceParts : Pattern → List Pattern
    | .seq p q => parts (.seq p q)
    | _ => []

def weight : Pattern → Nat
  | .many p _ _ _ => p.weight + 1
  | .group _ p => p.weight + 1
  | .seq p q => p.weight + q.weight + 1
  | .alt p q => p.weight + q.weight + 1
  | _ => 1

/-- An alternation in normal form; every round takes at least one part off each branch. -/
def alternate : Nat → List Pattern → Pattern
  | 0, ps => join .alt (.set .empty) (ps.flatMap branches)
  | fuel + 1, ps =>
    let ps := ps.flatMap branches
    match ps with
    | [p] => p
    | ps =>
      match characters? ps, sets? ps with
      | some s, _ => ofSet s
      | none, some s => ofSet s
      | none, none =>
        let lead := sharedParts ps
        if lead.isEmpty then join .alt (.set .empty) ps
        else
          let rests := ps.map fun p => sequence (p.parts.drop lead.length)
          sequence (lead ++ [alternate fuel rests])

def alternation (ps : List Pattern) : Pattern :=
  alternate (ps.foldr (fun p n => p.weight + n) 1) ps

end Pattern
end Tabular
