set_option autoImplicit false

namespace Tabular.Integer

def least : Int := -9223372036854775808

def greatest : Int := 9223372036854775807

def check (n : Int) : Option Int64 :=
  if least ≤ n ∧ n ≤ greatest then some (Int64.ofInt n) else none

def clamp (n : Int) : Int64 :=
  if n < least then Int64.minValue
  else if greatest < n then Int64.maxValue
  else Int64.ofInt n

/-- The sum of two integers, or the end of the range that it lies beyond. -/
def addClamped (i j : Int64) : Int64 := clamp (i.toInt + j.toInt)

theorem toInt_ofInt {n : Int} (hl : least ≤ n) (hg : n ≤ greatest) :
    (Int64.ofInt n).toInt = n := by
  rw [Int64.toInt_ofInt]
  unfold least at hl
  unfold greatest at hg
  exact Int.bmod_eq_of_le (by simp only [Int64.size]; omega) (by simp only [Int64.size]; omega)

theorem toInt_ofNat {n : Nat} (h : n ≤ greatest) : (Int64.ofNat n).toInt = n := by
  unfold greatest at h
  exact Int64.toInt_ofNat_of_lt (by omega)

theorem toInt_of_check {n : Int} {i : Int64} (h : check n = some i) : i.toInt = n := by
  unfold check at h
  split at h
  · rename_i hr
    cases h
    exact toInt_ofInt hr.1 hr.2
  · cases h

theorem check_toInt (i : Int64) : check i.toInt = some i := by
  have hl := Int64.le_toInt i
  have hg := Int64.toInt_lt i
  unfold check least greatest
  rw [if_pos (by omega), Int64.ofInt_toInt]

theorem toInt_clamp (n : Int) : (clamp n).toInt = max least (min greatest n) := by
  unfold clamp
  split
  · rename_i hlt
    change least = _
    unfold greatest
    unfold least at hlt ⊢
    omega
  · rename_i hge
    split
    · rename_i hgt
      change greatest = _
      unfold least
      unfold greatest at hgt ⊢
      omega
    · rename_i hle
      rw [toInt_ofInt (Int.not_lt.1 hge) (Int.not_lt.1 hle)]
      omega

theorem toInt_addClamped (i j : Int64) :
    (addClamped i j).toInt = max least (min greatest (i.toInt + j.toInt)) :=
  toInt_clamp _

theorem check_eq_none {n : Int} : check n = none ↔ n < least ∨ greatest < n := by
  unfold check
  split
  · rename_i hr
    exact ⟨nofun, fun h => by omega⟩
  · rename_i hr
    exact ⟨fun _ => by omega, fun _ => rfl⟩

end Tabular.Integer
