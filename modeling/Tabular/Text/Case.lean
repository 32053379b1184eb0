import Tabular.Text.CaseTable

set_option autoImplicit false

namespace Tabular.Text

def mapSequences (table : List (Nat × List Nat)) (runs : List CaseRun) (c : Char) : List Char :=
  match entryOf? c.toNat table with
  | some codes => codes.map Char.ofNat
  | none => [shiftBy runs c]

def upperChars : Char → List Char := mapSequences upperSequences upperRuns

def lowerChars : Char → List Char := mapSequences lowerSequences lowerRuns

def upper (s : String) : String := String.ofList (s.toList.flatMap upperChars)

def startsCased (cs : List Char) : Bool :=
  match cs.dropWhile (within ignorableRanges) with
  | c :: _ => within casedRanges c
  | [] => false

/-- Lower case of a text whose characters before it are `before`, nearest first. -/
def lowerFrom (before : List Char) : List Char → List Char
  | [] => []
  | c :: rest =>
    let mapped :=
      if c == 'Σ' then
        if startsCased before && !startsCased rest then ['ς'] else ['σ']
      else lowerChars c
    mapped ++ lowerFrom (c :: before) rest

def lower (s : String) : String := String.ofList (lowerFrom [] s.toList)

end Tabular.Text
