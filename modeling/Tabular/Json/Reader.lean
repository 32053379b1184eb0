import Tabular.Decimal.Reader
import Tabular.Text.Hex

set_option autoImplicit false

namespace Tabular

inductive Json where
  | null
  | boolean (b : Bool)
  | number
  | string (s : Option String)
  | list (items : List Json)
  | object (fields : List (Option String × Json))

namespace Json

def isGap (c : Char) : Bool := c == ' ' || c == '\n' || c == '\t' || c == '\r'

def dropGap (cs : List Char) : List Char := cs.dropWhile isGap

/-- One unit of a string: a character, a code unit of a surrogate pair, or what cannot be read. -/
inductive Unit16 where
  | char (c : Char)
  | high (n : Nat)
  | low (n : Nat)

def unitOf (n : Nat) : Unit16 :=
  if 0xD800 ≤ n ∧ n ≤ 0xDBFF then .high n
  else if 0xDC00 ≤ n ∧ n ≤ 0xDFFF then .low n
  else .char (Char.ofNat n)

def takeEscape : List Char → Option (Unit16 × List Char)
  | '"' :: r => some (.char '"', r)
  | '\\' :: r => some (.char '\\', r)
  | '/' :: r => some (.char '/', r)
  | 'b' :: r => some (.char '\x08', r)
  | 'f' :: r => some (.char '\x0c', r)
  | 'n' :: r => some (.char '\n', r)
  | 'r' :: r => some (.char '\r', r)
  | 't' :: r => some (.char '\t', r)
  | 'u' :: r =>
    if r.length < 4 then none else (Text.hex? (r.take 4)).map fun n => (unitOf n, r.drop 4)
  | _ => none

def takeUnits : Nat → List Char → Option (List Unit16 × List Char)
  | 0, _ => none
  | fuel + 1, cs =>
    match cs with
    | [] => none
    | '"' :: r => some ([], r)
    | '\\' :: r => do
      let (u, r) ← takeEscape r
      let (us, r) ← takeUnits fuel r
      return (u :: us, r)
    | c :: r =>
      if c.toNat < 32 then none
      else do
        let (us, r) ← takeUnits fuel r
        return (.char c :: us, r)

/-- Joins surrogate pairs; a lone half makes the string unknown. -/
def joinUnits : List Unit16 → Option (List Char)
  | [] => some []
  | .char c :: us => (joinUnits us).map (c :: ·)
  | .high a :: .low b :: us =>
    (joinUnits us).map (Char.ofNat (0x10000 + (a - 0xD800) * 0x400 + (b - 0xDC00)) :: ·)
  | _ => none

def takeString (cs : List Char) : Option (Option String × List Char) :=
  (takeUnits (cs.length + 1) cs).map fun (us, r) => ((joinUnits us).map String.ofList, r)

def takeDigits (cs : List Char) : Option (List Char) :=
  let digits := cs.takeWhile Char.isDigit
  if digits.isEmpty then none else some (cs.drop digits.length)

def takeWhole : List Char → Option (List Char)
  | '0' :: r => some r
  | r => takeDigits r

def takeFraction : List Char → Option (List Char)
  | '.' :: r => takeDigits r
  | r => some r

def takeExponent : List Char → Option (List Char)
  | c :: r => if c == 'e' || c == 'E' then takeDigits (Decimal.splitSign r).2 else some (c :: r)
  | [] => some []

def dropNumber (cs : List Char) : Option (List Char) := do
  let cs := match cs with
    | '-' :: r => r
    | r => r
  let cs ← takeWhole cs
  let cs ← takeFraction cs
  takeExponent cs

mutual

/-- The first value of a text; `fuel` bounds the depth and the number of parts. -/
def takeValue : Nat → List Char → Option (Json × List Char)
  | 0, _ => none
  | fuel + 1, cs =>
    match dropGap cs with
    | 'n' :: 'u' :: 'l' :: 'l' :: r => some (.null, r)
    | 't' :: 'r' :: 'u' :: 'e' :: r => some (.boolean true, r)
    | 'f' :: 'a' :: 'l' :: 's' :: 'e' :: r => some (.boolean false, r)
    | '"' :: r => (takeString r).map fun (s, r) => (.string s, r)
    | '[' :: r =>
      match dropGap r with
      | ']' :: r => some (.list [], r)
      | r => (takeItems fuel r).map fun (items, r) => (.list items, r)
    | '\x7b' :: r =>
      match dropGap r with
      | '\x7d' :: r => some (.object [], r)
      | r => (takeFields fuel r).map fun (fields, r) => (.object fields, r)
    | r => (dropNumber r).map fun r => (.number, r)

def takeItems : Nat → List Char → Option (List Json × List Char)
  | 0, _ => none
  | fuel + 1, cs => do
    let (v, r) ← takeValue fuel cs
    match dropGap r with
    | ',' :: r =>
      let (vs, r) ← takeItems fuel r
      return (v :: vs, r)
    | ']' :: r => return ([v], r)
    | _ => none

def takeFields : Nat → List Char → Option (List (Option String × Json) × List Char)
  | 0, _ => none
  | fuel + 1, cs =>
    match dropGap cs with
    | '"' :: r => do
      let (name, r) ← takeString r
      match dropGap r with
      | ':' :: r =>
        let (v, r) ← takeValue fuel r
        match dropGap r with
        | ',' :: r =>
          let (vs, r) ← takeFields fuel r
          return ((name, v) :: vs, r)
        | '\x7d' :: r => return ([(name, v)], r)
        | _ => none
      | _ => none
    | _ => none

end

def parse? (text : String) : Option Json := do
  let cs := text.toList
  let (v, r) ← takeValue (2 * cs.length + 2) cs
  if (dropGap r).isEmpty then some v else none

end Json
end Tabular
