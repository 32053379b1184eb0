import Tabular.Decimal.Shortest
import Tabular.Number.Binary

set_option autoImplicit false

namespace Tabular.Decimal

structure Layout where
  tie : Tie
  /-- Points for which the number is written without an exponent. -/
  positional : Int → Bool
  /-- What follows the last digit of a whole number written without an exponent. -/
  whole : String
  /-- What stands before the digits of a positive exponent. -/
  plus : String
  nan : String
  infinity : String
  negativeInfinity : String

def zeros (n : Int) : List Char := List.replicate n.toNat '0'

def Digits.positional (d : Digits) (whole : String) : String :=
  let count : Int := d.digits.length
  if d.point ≤ 0 then String.ofList ('0' :: '.' :: zeros (-d.point) ++ d.digits)
  else if count ≤ d.point then String.ofList (d.digits ++ zeros (d.point - count)) ++ whole
  else String.ofList (d.digits.take d.point.toNat ++ '.' :: d.digits.drop d.point.toNat)

def Digits.scientific (d : Digits) (plus : String) : String :=
  let lead := String.ofList (d.digits.take 1)
  let rest := d.digits.drop 1
  let fraction := if rest.isEmpty then "" else "." ++ String.ofList rest
  let exponent := d.point - 1
  lead ++ fraction ++ "e" ++ (if 0 < exponent then plus else "") ++ toString exponent

def Layout.write (l : Layout) (x : Number) : String :=
  match Number.form x with
  | .nan => l.nan
  | .infinite negative => if negative then l.negativeInfinity else l.infinity
  | .finite negative m q =>
    let d := if m = 0 then ⟨['0'], 1⟩ else shortest l.tie m q
    let body := if l.positional d.point then d.positional l.whole else d.scientific l.plus
    if negative then "-" ++ body else body

end Tabular.Decimal
