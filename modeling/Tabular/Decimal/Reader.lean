import Tabular.Number.Basic

set_option autoImplicit false

namespace Tabular.Decimal

def natural? : List Char → Option Nat
  | [] => none
  | cs => if cs.all Char.isDigit then some (cs.foldl (fun n c => 10 * n + (c.toNat - 48)) 0)
    else none

def splitSign : List Char → Bool × List Char
  | '-' :: cs => (true, cs)
  | '+' :: cs => (false, cs)
  | cs => (false, cs)

def integer? (cs : List Char) : Option Int :=
  let (negative, digits) := splitSign cs
  (natural? digits).map fun n => if negative then -(n : Int) else n

def value (digits : List Char) : Nat := digits.foldl (fun n c => 10 * n + (c.toNat - 48)) 0

/-- Digits that decide how a decimal is rounded. The number half way between two doubles has fewer
    than 800 digits, so further digits only matter by whether they are zero. -/
def decisive (digits : List Char) : List Char :=
  if (digits.drop 800).all (· == '0') then digits.take 800 else digits.take 800 ++ ['1']

/-- The double nearest to `value digits · 10 ^ e`. Far outside the range of doubles the answer
    is known from the number of digits alone. -/
def nearest (digits : List Char) (e : Int) : Number :=
  let lead := digits.dropWhile (· == '0')
  let point := (lead.length : Int) + e
  let kept := decisive lead
  let m := value kept
  let scale := point - kept.length
  if m = 0 then 0.0
  else if 400 < point then .infinity
  else if point < -400 then 0.0
  else if 0 ≤ scale then .ofFloat (Float.ofScientific m false scale.toNat)
  else .ofFloat (Float.ofScientific m true (-scale).toNat)

def exponent? : List Char → Option Int
  | [] => some 0
  | c :: cs => if c == 'e' || c == 'E' then integer? cs else none

/-- Digits with an optional point and exponent; at least one digit before the exponent. -/
def unsigned? (cs : List Char) : Option Number :=
  let whole := cs.takeWhile Char.isDigit
  let rest := cs.dropWhile Char.isDigit
  let (fraction, rest) :=
    match rest with
    | '.' :: r => (r.takeWhile Char.isDigit, r.dropWhile Char.isDigit)
    | r => ([], r)
  if whole.isEmpty && fraction.isEmpty then none
  else (exponent? rest).map fun e => nearest (whole ++ fraction) (e - fraction.length)

def number? (cs : List Char) : Option Number :=
  let (negative, body) := splitSign cs
  let magnitude : Option Number :=
    match String.ofList (body.map Char.toLower) with
    | "inf" => some .infinity
    | "infinity" => some .infinity
    | "nan" => some .nan
    | _ => unsigned? body
  magnitude.map fun x => if negative then -x else x

end Tabular.Decimal
