set_option autoImplicit false

namespace Tabular.Text

/-- The numbers from `first` to `last` as products of ranges of their digits in base 64: one
    leading digit of any size and `k` others. -/
def digitRuns : Nat → Nat → Nat → List (List (Nat × Nat))
  | 0, first, last => [[(first, last)]]
  | k + 1, first, last =>
    let unit := Nat.pow 64 (k + 1)
    let (a, x) := (first / unit, first % unit)
    let (b, y) := (last / unit, last % unit)
    if a = b then (digitRuns k x y).map ((a, a) :: ·)
    else
      let low := if x = 0 then [] else (digitRuns k x (unit - 1)).map ((a, a) :: ·)
      let high := if y + 1 = unit then [] else (digitRuns k 0 y).map ((b, b) :: ·)
      let start := if x = 0 then a else a + 1
      let stop := if y + 1 = unit then b + 1 else b
      let full := if start < stop then [(start, stop - 1) :: List.replicate (k + 1) (0, 63)] else []
      low ++ full ++ high

/-- The code points with the same number of bytes: first, last, bytes after the leading one, and
    what is added to the leading digit. -/
def byteBands : List (Nat × Nat × Nat × Nat) :=
  [(0, 0x7F, 0, 0), (0x80, 0x7FF, 1, 0xC0), (0x800, 0xD7FF, 2, 0xE0), (0xE000, 0xFFFF, 2, 0xE0),
   (0x10000, 0x10FFFF, 3, 0xF0)]

def markBytes (lead : Nat) : List (Nat × Nat) → List (Nat × Nat)
  | [] => []
  | (a, b) :: rest => (lead + a, lead + b) :: rest.map fun (x, y) => (128 + x, 128 + y)

def byteRanges (first last : Nat) : List (List (Nat × Nat)) :=
  byteBands.flatMap fun (low, high, k, lead) =>
    let a := max first low
    let b := min last high
    if a ≤ b then (digitRuns k a b).map (markBytes lead) else []

def byteCount (c : Char) : Nat :=
  if c.toNat < 0x80 then 1 else if c.toNat < 0x800 then 2 else if c.toNat < 0x10000 then 3 else 4

def bytes (c : Char) : List Nat := (byteRanges c.toNat c.toNat).flatMap fun run => run.map Prod.fst

end Tabular.Text
