import Tabular.Decimal.Reader
import Tabular.Text.Blank

set_option autoImplicit false

namespace Tabular

def isLeap (year : Int) : Bool :=
  year % 4 == 0 && (year % 100 != 0 || year % 400 == 0)

def daysIn (year : Int) (month : Nat) : Nat :=
  if month = 2 then if isLeap year then 29 else 28
  else if month = 4 ∨ month = 6 ∨ month = 9 ∨ month = 11 then 30
  else 31

structure Date where
  year : Int
  month : Nat
  day : Nat
  year_ge : -262143 ≤ year
  year_le : year ≤ 262142
  month_pos : 1 ≤ month
  month_le : month ≤ 12
  day_pos : 1 ≤ day
  day_le : day ≤ daysIn year month
  deriving DecidableEq

namespace Date

def ofFields? (year : Int) (month day : Nat) : Option Date :=
  if h : (-262143 ≤ year ∧ year ≤ 262142) ∧ (1 ≤ month ∧ month ≤ 12) ∧
      1 ≤ day ∧ day ≤ daysIn year month then
    some ⟨year, month, day, h.1.1, h.1.2, h.2.1.1, h.2.1.2, h.2.2.1, h.2.2.2⟩
  else none

def epoch : Date :=
  ⟨1970, 1, 1, by decide, by decide, by decide, by decide, by decide, by decide⟩

theorem ofFields?_fields (d : Date) : ofFields? d.year d.month d.day = some d := by
  rw [ofFields?, dif_pos ⟨⟨d.year_ge, d.year_le⟩, ⟨d.month_pos, d.month_le⟩, d.day_pos, d.day_le⟩]

def order (a b : Date) : Ordering :=
  (compare a.year b.year).then ((compare a.month b.month).then (compare a.day b.day))

def padded (width n : Nat) : List Char :=
  let digits := Nat.toDigits 10 n
  List.replicate (width - digits.length) '0' ++ digits

def yearText (year : Int) : List Char :=
  if year < 0 then '-' :: padded 4 year.natAbs
  else if 9999 < year then '+' :: padded 4 year.natAbs
  else padded 4 year.natAbs

def render (d : Date) : String :=
  String.ofList (yearText d.year ++ '-' :: padded 2 d.month ++ '-' :: padded 2 d.day)

/-- Blanks, then at least one and at most `most` digits. -/
def takeNumber (most : Nat) (cs : List Char) : Option (Nat × List Char) :=
  let cs := Text.dropStart cs
  let digits := (cs.takeWhile Char.isDigit).take most
  (Decimal.natural? digits).map fun n => (n, cs.drop digits.length)

/-- A year of at most four digits, or of any number of digits after a sign. -/
def takeYear (cs : List Char) : Option (Int × List Char) :=
  match Text.dropStart cs with
  | '-' :: r => (signed r).map fun (n, r) => (-(n : Int), r)
  | '+' :: r => (signed r).map fun (n, r) => ((n : Int), r)
  | r => (takeNumber 4 r).map fun (n, r) => ((n : Int), r)
where
  signed (cs : List Char) : Option (Nat × List Char) :=
    let digits := cs.takeWhile Char.isDigit
    (Decimal.natural? digits).map fun n => (n, cs.drop digits.length)

def takeHyphen : List Char → Option (List Char)
  | '-' :: r => some r
  | _ => none

def parse? (cs : List Char) : Option Date := do
  let (year, cs) ← takeYear cs
  let cs ← takeHyphen cs
  let (month, cs) ← takeNumber 2 cs
  let cs ← takeHyphen cs
  let (day, cs) ← takeNumber 2 cs
  if cs.isEmpty then ofFields? year month day else none

end Date
end Tabular
