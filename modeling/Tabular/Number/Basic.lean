import Tabular.Number.Power

set_option autoImplicit false

/-!
# Numbers

A number is a binary floating-point datum of 64 bits. Arithmetic rounds to the nearest number. It
passes a NaN operand on, the first one if both are NaN, so that a NaN keeps its sign; an operation
on other numbers that has no result, such as the difference of two infinities, gives the negative
NaN.
-/
namespace Tabular

structure Number where
  bits : UInt64
  deriving DecidableEq, Repr

namespace Number

def ofFloat (x : Float) : Number := ⟨x.toBits⟩

def toFloat (x : Number) : Float := Float.ofBits x.bits

instance : OfScientific Number where
  ofScientific m s e := ofFloat (OfScientific.ofScientific m s e)

def ofNat (n : Nat) : Number := ofFloat (Float.ofNat n)

/-- The nearest number to an integer, ties to even. -/
def ofInteger (i : Int64) : Number := ofFloat (Float.ofInt i.toInt)

def signBit : UInt64 := 0x8000000000000000

def infinity : Number := ⟨0x7FF0000000000000⟩

def nan : Number := ⟨0x7FF8000000000000⟩

def abs (x : Number) : Number := ⟨x.bits &&& (signBit - 1)⟩

instance : Neg Number where
  neg x := ⟨x.bits ^^^ signBit⟩

def isNegative (x : Number) : Bool := signBit ≤ x.bits

def isNaN (x : Number) : Bool := infinity.bits < x.abs.bits

def isZero (x : Number) : Bool := x.abs.bits == 0

/-- Numeric equality: the zeros are equal, and a NaN is equal to nothing. -/
def equals (x y : Number) : Bool :=
  !x.isNaN && !y.isNaN && (x.bits == y.bits || (x.isZero && y.isZero))

def atMost (x y : Number) : Bool := x.toFloat ≤ y.toFloat

def below (x y : Number) : Bool := x.toFloat < y.toFloat

def ofOutcome (x : Float) : Number := if x.isNaN then -nan else ofFloat x

def unary (f : Float → Float) (x : Number) : Number :=
  if x.isNaN then x else ofOutcome (f x.toFloat)

def binary (f : Float → Float → Float) (x y : Number) : Number :=
  if x.isNaN then x else if y.isNaN then y else ofOutcome (f x.toFloat y.toFloat)

instance : Add Number where
  add := binary fun x y => x + y

instance : Sub Number where
  sub := binary fun x y => x - y

instance : Mul Number where
  mul := binary fun x y => x * y

instance : Div Number where
  div := binary fun x y => x / y

def sqrt : Number → Number := unary Float.sqrt

def exp : Number → Number := unary Float.exp

def log : Number → Number := unary Float.log

end Number
end Tabular
