import Tabular.Pattern.Flags
import Tabular.Text.Hex

set_option autoImplicit false

namespace Tabular.Pattern

/-- What a backslash introduces. A set comes with its part in ASCII. A character given by two
    hexadecimal digits is marked. -/
inductive Escape where
  | char (c : Char) (short : Bool)
  | set (all ascii : CharSet) (negated : Bool)
  | anchor (a : Anchor)

def takeHex (f : Flags) : Nat → List Char → Option (List Char × List Char)
  | 0, cs => some ([], cs)
  | _, [] => none
  | n + 1, c :: r =>
    if (Text.hexValue? c).isSome then (takeHex f n (f.skip r)).map fun (ds, r) => (c :: ds, r)
    else none

def takeBraced (f : Flags) : Nat → List Char → Option (List Char × List Char)
  | 0, _ => none
  | _, [] => none
  | fuel + 1, c :: r =>
    if c == '\x7d' then some ([], f.skip r)
    else if (Text.hexValue? c).isSome then
      (takeBraced f fuel (f.skip r)).map fun (ds, r) => (c :: ds, r)
    else none

def takeCode (f : Flags) (width : Nat) (cs : List Char) : Option (Escape × List Char) := do
  match f.skip cs with
  | '\x7b' :: r =>
    let (digits, r) ← takeBraced f (r.length + 1) (f.skip r)
    let c ← (Text.hex? digits).bind Text.scalar?
    return (.char c false, r)
  | cs =>
    let (digits, r) ← takeHex f width cs
    let c ← (Text.hex? digits).bind Text.scalar?
    return (.char c (width == 2), r)

def isEdgeLetter (c : Char) : Bool := c.isAlpha || c == '-'

def takeEdgeName (f : Flags) : Nat → List Char → Option (List Char × List Char)
  | 0, _ => none
  | _, [] => none
  | fuel + 1, c :: r =>
    if c == '\x7d' then some ([], r)
    else if isEdgeLetter c then
      (takeEdgeName f fuel (f.skip r)).map fun (ds, r) => (c :: ds, r)
    else none

def edgeNamed? : String → Option WordEdge
  | "start" => some .start
  | "end" => some .finish
  | "start-half" => some .startHalf
  | "end-half" => some .finishHalf
  | _ => none

/-- A word boundary, with the name of a special one in braces. Braces around anything else are a
    repetition. -/
def takeEdge (f : Flags) (cs : List Char) : Option (WordEdge × List Char) :=
  match cs with
  | '\x7b' :: r =>
    match f.skip r with
    | [] => none
    | c :: r =>
      if isEdgeLetter c then do
        let (name, r) ← takeEdgeName f (r.length + 2) (c :: r)
        let e ← edgeNamed? (String.ofList name)
        return (e, r)
      else some (.boundary, cs)
  | cs => some (.boundary, cs)

def takeEscape (f : Flags) : List Char → Option (Escape × List Char)
  | [] => none
  | 'd' :: r => some (.set .digits .asciiDigits false, r)
  | 'D' :: r => some (.set .digits .asciiDigits true, r)
  | 'w' :: r => some (.set .words .asciiWords false, r)
  | 'W' :: r => some (.set .words .asciiWords true, r)
  | 's' :: r => some (.set .blanks .asciiBlanks false, r)
  | 'S' :: r => some (.set .blanks .asciiBlanks true, r)
  | 'n' :: r => some (.char '\n' false, r)
  | 't' :: r => some (.char '\t' false, r)
  | 'r' :: r => some (.char '\r' false, r)
  | 'f' :: r => some (.char '\x0c' false, r)
  | 'v' :: r => some (.char '\x0b' false, r)
  | 'a' :: r => some (.char '\x07' false, r)
  | 'b' :: r => (takeEdge f r).map fun (e, r) => (.anchor (f.edge e), r)
  | 'B' :: r => some (.anchor (f.edge .inside), r)
  | '<' :: r => some (.anchor (f.edge .start), r)
  | '>' :: r => some (.anchor (f.edge .finish), r)
  | 'A' :: r => some (.anchor .start, r)
  | 'z' :: r => some (.anchor .finish, r)
  | 'x' :: r => takeCode f 2 r
  | 'u' :: r => takeCode f 4 r
  | 'U' :: r => takeCode f 8 r
  | c :: r => if c.isAlphanum || 127 < c.toNat then none else some (.char c false, r)

def Flags.escaped? (f : Flags) (all ascii : CharSet) (negated : Bool) : Option CharSet :=
  f.select? negated (if f.wide then all else ascii)

inductive Member where
  | char (c : Char)
  | set (s : CharSet)

def takeMember (f : Flags) : List Char → Option (Member × List Char)
  | [] => none
  | '\\' :: r => do
    let (e, r) ← takeEscape f r
    match e with
    | .char c _ => if f.wide || c.toNat < 128 then some (.char c, r) else none
    | .set all ascii negated => (f.escaped? all ascii negated).map fun s => (.set s, r)
    | .anchor _ => none
  | c :: r => if f.wide || c.toNat < 128 then some (.char c, r) else none

def Member.charSet : Member → CharSet
  | .char c => .single c
  | .set s => s

def Member.bound? : Member → Option Nat
  | .char c => some c.toNat
  | .set _ => none

/-- A range or a single member. A hyphen before a bracket stands for itself, and before another
    hyphen it begins an operator. -/
def takeRange (f : Flags) (cs : List Char) : Option (CharSet × List Char) := do
  let (m, r) ← takeMember f cs
  match f.skip r with
  | '-' :: rest =>
    match f.skip rest with
    | ']' :: _ => some (m.charSet, '-' :: rest)
    | '-' :: _ => some (m.charSet, '-' :: rest)
    | rest =>
      let a ← m.bound?
      let (n, r) ← takeMember f rest
      let b ← n.bound?
      if a ≤ b then some (.range a b, r) else none
  | r => some (m.charSet, r)

def takeNamed (cs : List Char) : Option (Bool × CharSet × List Char) :=
  match cs with
  | ':' :: r =>
    let negated := r.head? == some '^'
    let r := if negated then r.drop 1 else r
    let name := r.takeWhile (· != ':')
    match r.drop name.length with
    | ':' :: ']' :: rest => (CharSet.named? (String.ofList name)).map fun s => (negated, s, rest)
    | _ => none
  | _ => none

inductive ClassOp where
  | inter
  | diff
  | symmDiff
  deriving DecidableEq, Repr

def ClassOp.apply : ClassOp → CharSet → CharSet → CharSet
  | .inter => CharSet.inter
  | .diff => CharSet.diff
  | .symmDiff => CharSet.symmDiff

structure Nested where
  set : CharSet
  depth : Nat

structure Members where
  set : CharSet := .empty
  depth : Nat := 0
  count : Nat := 0

def Members.add (m : Members) (s : CharSet) (depth : Nat) : Members :=
  ⟨m.set.union s, max m.depth depth, m.count + 1⟩

/-- Two members or more are one level deeper than each of them. -/
def Members.nested (m : Members) : Nested := ⟨m.set, if m.count ≤ 1 then m.depth else m.depth + 1⟩

abbrev Pending := Option (ClassOp × Nested)

def Pending.finish (f : Flags) (p : Pending) (m : Members) : Nested :=
  match p with
  | none => m.nested
  | some (op, left) =>
    let right := m.nested
    ⟨op.apply (f.fold left.set) (f.fold right.set), max left.depth right.depth + 1⟩

def takeHyphens (f : Flags) : Nat → Members → List Char → Members × List Char
  | 0, m, cs => (m, cs)
  | fuel + 1, m, cs =>
    match cs with
    | '-' :: r => takeHyphens f fuel (m.add (.single '-') 0) (f.skip r)
    | cs => (m, cs)

/-- The beginning of a class after its bracket: negation, leading hyphens, a leading bracket. -/
def openClass (f : Flags) (cs : List Char) : Bool × Members × List Char :=
  let cs := f.skip cs
  let negated := cs.head? == some '^'
  let cs := if negated then f.skip (cs.drop 1) else cs
  let (m, cs) := takeHyphens f cs.length {} cs
  match cs with
  | ']' :: r => if m.count = 0 then (negated, m.add (.single ']') 0, f.skip r) else (negated, m, cs)
  | cs => (negated, m, cs)

/-- The members of a class up to its closing bracket; `fuel` bounds the characters read. -/
def takeClass (f : Flags) : Nat → Bool → Members → Pending → List Char →
    Option (Nested × List Char)
  | 0, _, _, _, _ => none
  | fuel + 1, negated, m, pending, cs =>
    match f.skip cs with
    | [] => none
    | ']' :: r => do
      let n := pending.finish f m
      let s ← f.select? negated (f.fold n.set)
      return (⟨s, n.depth + 1⟩, r)
    | '[' :: r =>
      match takeNamed r with
      | some (inverted, s, r) => do
        let s ← f.select? inverted (f.fold s)
        takeClass f fuel negated (m.add s 0) pending r
      | none => do
        let (inverted, inner, r) := openClass f r
        let (n, r) ← takeClass f fuel inverted inner none r
        takeClass f fuel negated (m.add n.set n.depth) pending r
    | '&' :: '&' :: r => takeClass f fuel negated {} (some (.inter, pending.finish f m)) r
    | '-' :: '-' :: r => takeClass f fuel negated {} (some (.diff, pending.finish f m)) r
    | '~' :: '~' :: r => takeClass f fuel negated {} (some (.symmDiff, pending.finish f m)) r
    | cs => do
      let (s, r) ← takeRange f cs
      takeClass f fuel negated (m.add s 0) pending r

end Tabular.Pattern
