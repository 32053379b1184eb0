set_option autoImplicit false

namespace Tabular.Text

def slice (cs : List Char) (start : Nat) (length : Option Nat) : List Char :=
  match length with
  | none => cs.drop start
  | some n => (cs.drop start).take n

/-- The positions, in increasing order, at which `pattern` occurs; occurrences may overlap. -/
def occurrencesFrom (pattern : List Char) : Nat → List Char → List Nat
  | i, [] => if pattern.isEmpty then [i] else []
  | i, c :: cs =>
    let rest := occurrencesFrom pattern (i + 1) cs
    if pattern.isPrefixOf (c :: cs) then i :: rest else rest

def occurrences (pattern cs : List Char) : List Nat := occurrencesFrom pattern 0 cs

/-- Replaces the occurrences of a pattern that is not empty, from the left, none overlapping.
    `skip` characters of the last match are still to be passed over. -/
def replaceFrom (pattern replacement : List Char) : Nat → List Char → List Char
  | _, [] => []
  | skip + 1, _ :: cs => replaceFrom pattern replacement skip cs
  | 0, c :: cs =>
    if pattern.isPrefixOf (c :: cs) then
      replacement ++ replaceFrom pattern replacement (pattern.length - 1) cs
    else c :: replaceFrom pattern replacement 0 cs

/-- The empty pattern occurs before every character and at the end. -/
def replaceAll (pattern replacement cs : List Char) : List Char :=
  if pattern.isEmpty then replacement ++ cs.flatMap (fun c => c :: replacement)
  else replaceFrom pattern replacement 0 cs

end Tabular.Text
