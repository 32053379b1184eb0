set_option autoImplicit false

namespace Tabular.Text

/-- The rest of a row: `left` is the entry just written, `diagonal` the one above it. -/
def distanceCells (a : Char) : Nat → Nat → List Char → List Nat → List Nat
  | left, diagonal, b :: bs, above :: row =>
    let cell := min (min (diagonal + if a = b then 0 else 1) (above + 1)) (left + 1)
    cell :: distanceCells a cell above bs row
  | _, _, _, _ => []

def distanceRow (a : Char) (b : List Char) : List Nat → List Nat
  | [] => []
  | first :: row => (first + 1) :: distanceCells a (first + 1) first b row

def distanceRows (b : List Char) : List Char → List Nat → List Nat
  | [], row => row
  | a :: as, row => distanceRows b as (distanceRow a b row)

/-- The least number of insertions, deletions and substitutions that turn one text into the
    other. -/
def editDistance (a b : List Char) : Nat :=
  (distanceRows b a (List.range (b.length + 1))).getLastD 0

end Tabular.Text
