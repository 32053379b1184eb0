import Tabular.Pattern.Basic

set_option autoImplicit false

namespace Tabular.Pattern

structure Flags where
  /-- Case is ignored. -/
  folded : Bool := false
  /-- Line ends count as ends. -/
  multiline : Bool := false
  /-- The dot stands for a line feed too. -/
  dotAll : Bool := false
  /-- Repetitions prefer few rounds unless marked. -/
  swapped : Bool := false
  /-- Sets are those of all characters; otherwise only ASCII characters belong to a set. -/
  wide : Bool := true
  /-- A carriage return ends a line as well. -/
  returns : Bool := false
  /-- Blanks and comments in the text of the pattern are passed over. -/
  spaced : Bool := false
  deriving DecidableEq, Repr

namespace Flags

def set? (f : Flags) (on : Bool) : Char → Option Flags
  | 'i' => some { f with folded := on }
  | 'm' => some { f with multiline := on }
  | 's' => some { f with dotAll := on }
  | 'U' => some { f with swapped := on }
  | 'u' => some { f with wide := on }
  | 'R' => some { f with returns := on }
  | 'x' => some { f with spaced := on }
  | _ => none

def fold (f : Flags) (s : CharSet) : CharSet :=
  if !f.folded then s else if f.wide then s.folded else s.foldedAscii

/-- The set outside of which a character has to lie. It would have to contain characters beyond
    ASCII. -/
def negate? (f : Flags) (s : CharSet) : Option CharSet := if f.wide then some s.complement else none

def select? (f : Flags) (negated : Bool) (s : CharSet) : Option CharSet :=
  if negated then f.negate? s else some s

def literal (f : Flags) (c : Char) : Pattern :=
  if f.folded then ofSet (f.fold (.single c)) else .text [c]

def dot? (f : Flags) : Option Pattern :=
  if !f.wide then none
  else if f.dotAll then some (.set (CharSet.complement .empty))
  else if f.returns then some (.set (CharSet.complement ⟨[(10, 10), (13, 13)]⟩))
  else some (.set (CharSet.complement (.single '\n')))

def caret (f : Flags) : Pattern :=
  .anchor (if !f.multiline then .start else if f.returns then .returnStart else .lineStart)

def dollar (f : Flags) : Pattern :=
  .anchor (if !f.multiline then .finish else if f.returns then .returnFinish else .lineFinish)

def edge (f : Flags) (e : WordEdge) : Anchor := .word (!f.wide) e

/-- Drops blanks and comments, which run from a number sign to the end of the line; `comment` says
    that one has begun. -/
def dropGap (comment : Bool) : List Char → List Char
  | [] => []
  | c :: r =>
    if comment then dropGap (c != '\n') r
    else if Text.isBlank c then dropGap false r
    else if c == '#' then dropGap true r
    else c :: r

def skip (f : Flags) (cs : List Char) : List Char := if f.spaced then dropGap false cs else cs

end Flags
end Tabular.Pattern
