import Tabular.Integer
import Tabular.Number.Binary

set_option autoImplicit false

namespace Tabular.Number

/-- Ways to bring `m / 2 ^ k` with a sign to a whole magnitude. -/
inductive Direction where
  | down
  | up
  | towardZero
  | nearest
  deriving DecidableEq, Repr

/-- The whole magnitude chosen for `± m / 2 ^ k`; halves go away from zero. -/
def Direction.magnitude (d : Direction) (negative : Bool) (m k : Nat) : Nat :=
  let whole := m / pow2 k
  let exact := m % pow2 k == 0
  match d with
  | .towardZero => whole
  | .down => if negative && !exact then whole + 1 else whole
  | .up => if !negative && !exact then whole + 1 else whole
  | .nearest => (2 * m + pow2 k) / pow2 (k + 1)

def roundTo (d : Direction) (x : Number) : Number :=
  match form x with
  | .finite negative m q => if 0 ≤ q then x else signed negative (d.magnitude negative m (-q).toNat)
  | _ => x

def floor : Number → Number := roundTo .down

def ceil : Number → Number := roundTo .up

def integerPart? (x : Number) : Option Int :=
  match form x with
  | .finite negative m q =>
    let n : Nat := if 0 ≤ q then m * pow2 q.toNat else m / pow2 (-q).toNat
    some (if negative then -(n : Int) else n)
  | _ => none

def integer? (x : Number) : Option Int :=
  match form x with
  | .finite _ m q => if 0 ≤ q ∨ m % pow2 (-q).toNat = 0 then integerPart? x else none
  | _ => none

/-- Multiplies `r` by `b ^ n`, squaring `b` from the low bit of `n` upward; `fuel` bounds the
    number of bits. -/
def powerLoop : Nat → Number → Number → Nat → Number
  | 0, r, _, _ => r
  | fuel + 1, r, b, n =>
    let r := if n % 2 = 1 then r * b else r
    if n / 2 = 0 then r else powerLoop fuel r (b * b) (n / 2)

/-- Ten to a whole power; a negative power is the reciprocal of the positive one. -/
def tenTo (n : Int) : Number :=
  let p := powerLoop (n.natAbs + 1) 1.0 10.0 n.natAbs
  if n < 0 then 1.0 / p else p

def isOdd (x : Number) : Bool :=
  match integer? x with
  | some n => n % 2 != 0
  | none => false

/-- A power. An exponent of zero and a base of one give one whatever the other operand is. An odd
    exponent takes the sign from a NaN as it would keep that of a number. -/
def power (x y : Number) : Number :=
  if y.isZero || x.equals 1.0 then 1.0
  else if x.isNaN then if y.isOdd then x.abs else x
  else if y.isNaN then y
  else ofOutcome (x.toFloat.pow y.toFloat)

end Tabular.Number
