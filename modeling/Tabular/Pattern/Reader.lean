import Tabular.Decimal.Reader
import Tabular.Pattern.Class
import Tabular.Pattern.Program
import Tabular.Pattern.Room
import Tabular.Text.Letter

set_option autoImplicit false

namespace Tabular.Pattern

inductive Token where
  | item (p : Pattern) (depth : Nat)
  | opening (flags : Flags) (capturing : Bool) (label : Option String)
  | switch (flags : Flags)
  | closing
  | bar
  | repeated (least : Nat) (most : Option Nat) (lazy : Bool)

/-- Mode letters up to a colon or a parenthesis; those after the hyphen are switched off. No letter
    and no hyphen comes twice, and a letter follows the hyphen. `seen` is what has come, last
    first. -/
def takeFlags (f : Flags) (seen : List Char) : List Char → Option (Flags × List Char × List Char)
  | [] => none
  | c :: r =>
    if c == ':' || c == ')' then
      if seen.head? == some '-' then none else some (f, seen, c :: r)
    else if seen.contains c then none
    else if c == '-' then takeFlags f (c :: seen) r
    else (f.set? (!seen.contains '-') c).bind fun f => takeFlags f (c :: seen) r

/-- A label begins with a letter or an underscore and goes on with these, numerals, dots and
    brackets. -/
def isLabel : List Char → Bool
  | [] => false
  | c :: cs =>
    (c == '_' || Text.isAlphabetic c) &&
      cs.all fun c => c == '_' || c == '.' || c == '[' || c == ']' || Text.isAlphanumeric c

def takeLabel (f : Flags) (cs : List Char) : Option (Token × List Char) :=
  let label := cs.takeWhile (· != '>')
  match cs.drop label.length with
  | _ :: r => if isLabel label then some (.opening f true (String.ofList label), r) else none
  | [] => none

def takeGroup (f : Flags) (cs : List Char) : Option (Token × List Char) :=
  match f.skip cs with
  | '?' :: 'P' :: '<' :: r => takeLabel f r
  | '?' :: '<' :: r => takeLabel f r
  | '?' :: r => do
    let (g, seen, r) ← takeFlags f [] r
    match r with
    | ':' :: r => some (.opening g false none, r)
    | _ :: r => if seen.isEmpty then none else some (.switch g, r)
    | [] => none
  | r => some (.opening f true none, r)

def takeDigits (f : Flags) : Nat → List Char → List Char × List Char
  | 0, cs => ([], cs)
  | fuel + 1, cs =>
    match cs with
    | c :: r =>
      if c.isDigit then
        let (ds, r) := takeDigits f fuel (f.skip r)
        (c :: ds, r)
      else ([], cs)
    | [] => ([], [])

def countLimit : Nat := 4294967295

def takeCount (f : Flags) (cs : List Char) : Option (Nat × List Char) := do
  let cs := Text.dropStart cs
  let (digits, r) := takeDigits f cs.length cs
  let n ← Decimal.natural? digits
  if n ≤ countLimit then some (n, f.skip (Text.dropStart r)) else none

def takeLazy : List Char → Bool × List Char
  | '?' :: r => (true, r)
  | r => (false, r)

def takeCounts (f : Flags) (cs : List Char) : Option (Token × List Char) := do
  let (least, r) ← takeCount f (f.skip cs)
  let (most, r) ←
    match r with
    | ',' :: r =>
      match f.skip r with
      | '\x7d' :: r => some (none, '\x7d' :: r)
      | r => (takeCount f r).map fun (n, r) => (some n, r)
    | r => some (some least, r)
  match r with
  | '\x7d' :: r =>
    let (lazy, r) := takeLazy (f.skip r)
    if most.all (least ≤ ·) then some (.repeated least most lazy, r) else none
  | _ => none

def takeToken (f : Flags) (cs : List Char) : Option (Token × List Char) :=
  match cs with
  | [] => none
  | '\\' :: r => do
    let (e, r) ← takeEscape f r
    match e with
    | .char c short =>
      if !f.wide && short && 127 < c.toNat then none else some (.item (f.literal c) 0, r)
    | .set all ascii negated =>
      (f.escaped? all ascii negated).map fun s => (.item (ofSet s) 0, r)
    | .anchor a => some (.item (.anchor a) 0, r)
  | '.' :: r => f.dot?.map fun p => (.item p 0, r)
  | '^' :: r => some (.item f.caret 0, r)
  | '$' :: r => some (.item f.dollar 0, r)
  | '|' :: r => some (.bar, r)
  | '(' :: r => takeGroup f r
  | ')' :: r => some (.closing, r)
  | '*' :: r =>
    let (lazy, r) := takeLazy r
    some (.repeated 0 none lazy, r)
  | '+' :: r =>
    let (lazy, r) := takeLazy r
    some (.repeated 1 none lazy, r)
  | '?' :: r =>
    let (lazy, r) := takeLazy r
    some (.repeated 0 (some 1) lazy, r)
  | '\x7b' :: r => takeCounts f r
  | '[' :: r => do
    let (negated, m, r) := openClass f r
    let (n, r) ← takeClass f (r.length + 1) negated m none r
    some (.item (ofSet n.set) n.depth, r)
  | c :: r => some (.item (f.literal c) 0, r)

/-- A part of a sequence. A switch of modes is one that cannot be repeated. -/
structure Item where
  pattern : Pattern
  depth : Nat
  repeatable : Bool := true

/-- An open group: its number if it captures, the finished alternatives and the items of the
    current one, last first, and the modes in force. -/
structure Group where
  index : Option Nat := none
  alternatives : List (Pattern × Nat) := []
  items : List Item := []
  flags : Flags := {}

def depthOf : List Nat → Nat
  | [] => 0
  | [d] => d
  | ds => ds.foldl max 0 + 1

def Group.push (g : Group) (p : Pattern) (depth : Nat) : Group :=
  { g with items := ⟨p, depth, true⟩ :: g.items }

def Group.sequence (g : Group) : Pattern × Nat :=
  (Pattern.sequence (g.items.reverse.map Item.pattern), depthOf (g.items.map Item.depth))

def Group.content (g : Group) : Pattern × Nat :=
  match g.alternatives with
  | [] => g.sequence
  | alternatives =>
    let all := (g.sequence :: alternatives).reverse
    (alternation (all.map Prod.fst), depthOf (all.map Prod.snd))

def Group.close (g : Group) : Pattern × Nat :=
  let (p, depth) := g.content
  match g.index with
  | some i => (.group i p, depth + 1)
  | none => (p, depth + 1)

/-- The open groups from the inside out, the number of groups that capture, and their labels. -/
structure Assembly where
  group : Group := {}
  outer : List Group := []
  captures : Nat := 0
  labels : List String := []

def Assembly.add (a : Assembly) : Token → Option Assembly
  | .item p depth => some { a with group := a.group.push p depth }
  | .opening flags capturing label =>
    let repeated := label.any a.labels.contains
    if repeated then none
    else
      let index := if capturing then some (a.captures + 1) else none
      some
        { group := { index := index, flags := flags }
          outer := a.group :: a.outer
          captures := if capturing then a.captures + 1 else a.captures
          labels := label.toList ++ a.labels }
  | .switch flags =>
    some { a with group :=
      { a.group with items := ⟨.empty, 0, false⟩ :: a.group.items, flags := flags } }
  | .closing =>
    match a.outer with
    | parent :: outer =>
      let (p, depth) := a.group.close
      some { a with group := parent.push p depth, outer := outer }
    | [] => none
  | .bar =>
    some { a with group :=
      { a.group with alternatives := a.group.sequence :: a.group.alternatives, items := [] } }
  | .repeated least most lazy =>
    match a.group.items with
    | item :: rest =>
      if item.repeatable then
        let p := Pattern.repeated item.pattern least most (lazy != a.group.flags.swapped)
        some { a with group := { a.group with items := ⟨p, item.depth + 1, true⟩ :: rest } }
      else none
    | [] => none

/-- Reads what is left of a text; `fuel` bounds the number of tokens. -/
def assemble : Nat → Assembly → List Char → Option (Pattern × Nat)
  | 0, _, _ => none
  | fuel + 1, a, cs =>
    match a.group.flags.skip cs with
    | [] => if a.outer.isEmpty then some a.group.content else none
    | cs => do
      let (t, r) ← takeToken a.group.flags cs
      let a ← a.add t
      assemble fuel a r

def depthLimit : Nat := 250

def parse? (cs : List Char) : Option Pattern := do
  let (p, depth) ← assemble (cs.length + 1) {} cs
  if depth ≤ depthLimit && p.fits then some p else none

end Tabular.Pattern
