import Tabular.Text.FoldTable
import Tabular.Text.Word

set_option autoImplicit false

namespace Tabular

structure CharSet where
  ranges : List (Nat × Nat)
  deriving DecidableEq, Repr

namespace CharSet

def empty : CharSet := ⟨[]⟩

def range (first last : Nat) : CharSet := ⟨[(first, last)]⟩

def single (c : Char) : CharSet := range c.toNat c.toNat

def digits : CharSet := ⟨Text.digitRanges⟩

def words : CharSet := ⟨Text.wordRanges⟩

def blanks : CharSet := ⟨Text.blankRanges⟩

def lies (n : Nat) : List (Nat × Nat) → Bool
  | [] => false
  | (a, b) :: rest => if n < a then false else if n ≤ b then true else lies n rest

def has (s : CharSet) (n : Nat) : Bool := lies n s.ranges

def contains (s : CharSet) (c : Char) : Bool := s.has c.toNat

def insertRange : Nat → Nat → List (Nat × Nat) → List (Nat × Nat)
  | a, b, [] => [(a, b)]
  | a, b, (c, d) :: rest =>
    if b + 1 < c then (a, b) :: (c, d) :: rest
    else if d + 1 < a then (c, d) :: insertRange a b rest
    else insertRange (min a c) (max b d) rest

def union (s t : CharSet) : CharSet :=
  ⟨t.ranges.foldl (fun acc r => insertRange r.1 r.2 acc) s.ranges⟩

/-- The code points from `next` on that lie in none of the ascending ranges. -/
def gaps : Nat → List (Nat × Nat) → List (Nat × Nat)
  | next, [] => if next ≤ 0x10FFFF then [(next, 0x10FFFF)] else []
  | next, (a, b) :: rest =>
    if next < a then (next, a - 1) :: gaps (b + 1) rest else gaps (b + 1) rest

def complement (s : CharSet) : CharSet := ⟨gaps 0 (insertRange 0xD800 0xDFFF s.ranges)⟩

def inter (s t : CharSet) : CharSet := (s.complement.union t.complement).complement

def diff (s t : CharSet) : CharSet := s.inter t.complement

def symmDiff (s t : CharSet) : CharSet := (s.diff t).union (t.diff s)

def addAll (s : CharSet) (ns : List Nat) : CharSet :=
  ns.foldl (fun s n => if s.has n then s else ⟨insertRange n n s.ranges⟩) s

def foldedBy (pairs : List (Nat × Nat)) (s : CharSet) : CharSet :=
  let down := s.addAll (pairs.filterMap fun (c, f) => if s.has c then some f else none)
  down.addAll (pairs.filterMap fun (c, f) => if down.has f then some c else none)

/-- The set with every character that differs only in case from one of its own. -/
def folded : CharSet → CharSet := foldedBy Text.foldPairs

def asciiPairs : List (Nat × Nat) := (List.range 26).map fun i => (65 + i, 97 + i)

def foldedAscii : CharSet → CharSet := foldedBy asciiPairs

def isEmpty (s : CharSet) : Bool := s.ranges.isEmpty

def isAscii (s : CharSet) : Bool := s.ranges.all fun r => r.2 < 128

def sole? (s : CharSet) : Option Char :=
  match s.ranges with
  | [(a, b)] => if a = b then some (Char.ofNat a) else none
  | _ => none

def asciiDigits : CharSet := range 48 57

def asciiBlanks : CharSet := ⟨[(9, 13), (32, 32)]⟩

def asciiWords : CharSet := ⟨[(48, 57), (65, 90), (95, 95), (97, 122)]⟩

def named? : String → Option CharSet
  | "alnum" => some ⟨[(48, 57), (65, 90), (97, 122)]⟩
  | "alpha" => some ⟨[(65, 90), (97, 122)]⟩
  | "ascii" => some (range 0 127)
  | "blank" => some ⟨[(9, 9), (32, 32)]⟩
  | "cntrl" => some ⟨[(0, 31), (127, 127)]⟩
  | "digit" => some asciiDigits
  | "graph" => some (range 33 126)
  | "lower" => some (range 97 122)
  | "print" => some (range 32 126)
  | "punct" => some ⟨[(33, 47), (58, 64), (91, 96), (123, 126)]⟩
  | "space" => some asciiBlanks
  | "upper" => some (range 65 90)
  | "word" => some asciiWords
  | "xdigit" => some ⟨[(48, 57), (65, 70), (97, 102)]⟩
  | _ => none

end CharSet
end Tabular
