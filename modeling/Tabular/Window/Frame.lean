import Tabular.Window.Function

set_option autoImplicit false

namespace Tabular.Window

/-- Positions `first` to `last`, the latter excluded. -/
structure Frame where
  first : Nat
  last : Nat
  deriving DecidableEq, Repr

def Frame.slice {α : Type} (f : Frame) (xs : List α) : List α :=
  (xs.drop f.first).take (f.last - f.first)

/-- The positions of a partition of `len` rows whose distance from `pos` lies within the bounds. A
    position out of the range of 64 bits is beyond the partition, and so is the end of the range. -/
def pointsFrame (pos len : Nat) (b : Bounds) : Frame :=
  let first := max (Integer.addClamped (Int64.ofNat pos) b.first) 0
  let last := min (Integer.addClamped (Int64.ofNat pos) b.last) (Int64.ofNat len - 1)
  if last < first then ⟨0, 0⟩ else ⟨first.toInt.toNat, last.toInt.toNat + 1⟩

def offset (key : Number) (o : Int64) : Number :=
  if o = Int64.minValue then -.infinity
  else if o = Int64.maxValue then .infinity
  else key + Number.ofInteger o

/-- The interval of keys a window selects. Preceding rows of a descending order have larger keys. -/
def keyInterval (key : Number) (b : Bounds) (descending : Bool) : Number × Number :=
  if descending then
    (key - (offset key b.last - key), key - (offset key b.first - key))
  else (offset key b.first, offset key b.last)

def firstRun (p : Option Number → Bool) (keys : List (Option Number)) : Frame :=
  let before := (keys.takeWhile fun k => !p k).length
  ⟨before, before + ((keys.drop before).takeWhile p).length⟩

def insideInterval (low high : Number) : Option Number → Bool
  | some k => low.atMost k && k.atMost high
  | none => false

/-- A row without a key is framed with all others without one. -/
def rangeFrame (keys : List (Option Number)) (pos : Nat) (b : Bounds) (descending : Bool) : Frame :=
  match keys.getD pos none with
  | none => firstRun Option.isNone keys
  | some key =>
    let (low, high) := keyInterval key b descending
    firstRun (insideInterval low high) keys

end Tabular.Window
