import Tabular.Number.Basic

set_option autoImplicit false

namespace Tabular.Number

inductive Form where
  | nan
  | infinite (negative : Bool)
  | finite (negative : Bool) (mantissa : Nat) (exponent : Int)
  deriving DecidableEq, Repr

def form (x : Number) : Form :=
  let bits := x.bits.toNat
  let negative := decide (pow2 63 ≤ bits)
  let scale : Nat := bits / pow2 52 % pow2 11
  let fraction : Nat := bits % pow2 52
  if scale = 2047 then
    if fraction = 0 then .infinite negative else .nan
  else if scale = 0 then .finite negative fraction (-1074)
  else .finite negative (pow2 52 + fraction) ((scale : Int) - 1075)

def signed (negative : Bool) (n : Nat) : Number := if negative then -ofNat n else ofNat n

end Tabular.Number
