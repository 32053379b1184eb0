import Tabular.Decimal.Layout

set_option autoImplicit false

namespace Tabular.Json

def escape (c : Char) : List Char :=
  match c with
  | '"' => ['\\', '"']
  | '\\' => ['\\', '\\']
  | '\n' => ['\\', 'n']
  | '\r' => ['\\', 'r']
  | '\t' => ['\\', 't']
  | '\x08' => ['\\', 'b']
  | '\x0c' => ['\\', 'f']
  | c =>
    if c.toNat < 32 then
      ['\\', 'u', '0', '0', Nat.digitChar (c.toNat / 16), Nat.digitChar (c.toNat % 16)]
    else [c]

def writeString (s : String) : String := "\"" ++ String.ofList (s.toList.flatMap escape) ++ "\""

def writeList (items : List String) : String := "[" ++ ",".intercalate items ++ "]"

def writeObject (fields : List (String × String)) : String :=
  let written := fields.map fun (name, value) => writeString name ++ ":" ++ value
  "\x7b" ++ ",".intercalate written ++ "\x7d"

def writeBoolean (b : Bool) : String := if b then "true" else "false"

/-- Numbers that are not finite become null. -/
def numberLayout : Decimal.Layout where
  tie := .even
  positional := fun point => -5 < point && point ≤ 16
  whole := ".0"
  plus := "+"
  nan := "null"
  infinity := "null"
  negativeInfinity := "null"

end Tabular.Json
