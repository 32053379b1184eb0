import Tabular.Number.Power

set_option autoImplicit false

/-!
# The fewest digits that read back

For a number `m · 2 ^ q` the reals that round to it form an interval. `shortest` looks for a
decimal with 1, 2, … digits inside it, trying the two neighbours of the number on each decimal
grid, and takes the nearer one on the first grid with a hit. All comparisons are exact; which of
two equally near decimals is taken is left to the caller.
-/
namespace Tabular.Decimal

open Number (pow2 pow10)

/-- The decimal `0.d₁d₂… · 10 ^ point`. -/
structure Digits where
  digits : List Char
  point : Int
  deriving DecidableEq, Repr

def leScaled (c : Nat) (e : Int) (k : Nat) (p : Int) : Bool :=
  c * pow10 e.toNat * pow2 (-p).toNat ≤ k * pow2 p.toNat * pow10 (-e).toNat

def eqScaled (c : Nat) (e : Int) (k : Nat) (p : Int) : Bool :=
  c * pow10 e.toNat * pow2 (-p).toNat == k * pow2 p.toNat * pow10 (-e).toNat

/-- The reals that round to `m · 2 ^ q`, in units of `2 ^ p`: from `low` to `high` around
    `middle`, ends included when `closed`. -/
structure Interval where
  low : Nat
  middle : Nat
  high : Nat
  p : Int
  closed : Bool
  deriving Repr

/-- Below a power of two the spacing halves, so the lower end is nearer there. -/
def Interval.around (m : Nat) (q : Int) : Interval where
  low := if m = pow2 52 ∧ -1074 < q then 4 * m - 1 else 4 * m - 2
  middle := 4 * m
  high := 4 * m + 2
  p := q - 2
  closed := m % 2 == 0

def Interval.contains (i : Interval) (c : Nat) (e : Int) : Bool :=
  let aboveLow := if i.closed then !leScaled c e i.low i.p || eqScaled c e i.low i.p
    else !leScaled c e i.low i.p
  let belowHigh := leScaled c e i.high i.p && (i.closed || !eqScaled c e i.high i.p)
  aboveLow && belowHigh

/-- An exponent `e` with `m · 2 ^ q ≤ 10 ^ e`, at most two too large. -/
def magnitude (m : Nat) (q : Int) : Int :=
  let num := m * pow2 q.toNat
  let den := pow2 (-q).toNat
  if den ≤ num then (Nat.toDigits 10 (num / den)).length
  else 1 - (Nat.toDigits 10 (den / num) |>.length : Int) + 1

inductive Tie where
  | up
  | even
  deriving DecidableEq, Repr

def Tie.choose (t : Tie) (c : Nat) : Nat :=
  match t with
  | .up => c + 1
  | .even => if c % 2 = 0 then c else c + 1

/-- The hit nearest to the number on the grid of multiples of `10 ^ e`. -/
def Interval.nearest? (i : Interval) (tie : Tie) (e : Int) : Option Nat :=
  let c := i.middle * pow2 i.p.toNat * pow10 (-e).toNat / (pow10 e.toNat * pow2 (-i.p).toNat)
  match i.contains c e && c != 0, i.contains (c + 1) e with
  | true, true =>
    if eqScaled (2 * c + 1) e (2 * i.middle) i.p then some (tie.choose c)
    else if leScaled (2 * c + 1) e (2 * i.middle) i.p then some (c + 1)
    else some c
  | true, false => some c
  | false, true => some (c + 1)
  | false, false => none

def stripZeros (digits : List Char) : List Char :=
  (digits.reverse.dropWhile (· == '0')).reverse

/-- Seventeen digits always suffice; the grids start two places above the number. -/
def shortest (tie : Tie) (m : Nat) (q : Int) : Digits :=
  let i := Interval.around m q
  let top := magnitude m q
  let hit := (List.range 20).findSome? fun (n : Nat) =>
    let e := top - ((n : Int) + 1)
    (i.nearest? tie e).map fun c => (c, e)
  let (c, e) := hit.getD (m, 0)
  let all := Nat.toDigits 10 c
  ⟨stripZeros all, (all.length : Int) + e⟩

end Tabular.Decimal
