set_option autoImplicit false

namespace Tabular.Text

def within (ranges : List (Nat × Nat)) (c : Char) : Bool :=
  ranges.any fun r => r.1 ≤ c.toNat && c.toNat ≤ r.2

/-- The characters with the Unicode property White_Space. -/
def blankRanges : List (Nat × Nat) :=
  [(0x09, 0x0D), (0x20, 0x20), (0x85, 0x85), (0xA0, 0xA0), (0x1680, 0x1680), (0x2000, 0x200A),
   (0x2028, 0x2029), (0x202F, 0x202F), (0x205F, 0x205F), (0x3000, 0x3000)]

def isBlank : Char → Bool := within blankRanges

def dropStart (cs : List Char) : List Char := cs.dropWhile isBlank

def dropEnd (cs : List Char) : List Char := (cs.reverse.dropWhile isBlank).reverse

def trimStart (s : String) : String := String.ofList (dropStart s.toList)

def trimEnd (s : String) : String := String.ofList (dropEnd s.toList)

def trim (s : String) : String := String.ofList (dropEnd (dropStart s.toList))

end Tabular.Text
