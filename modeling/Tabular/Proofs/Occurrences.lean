import Mathlib.Data.List.Basic
import Tabular.Operation.Call

set_option autoImplicit false

namespace Tabular.Text

/-- The text goes on with the pattern at the place, which is counted from one. -/
def OccursAt (pattern s : List Char) (place : Nat) : Prop :=
  ∃ before after, s = before ++ pattern ++ after ∧ before.length + 1 = place

theorem occursAt_one_iff {pattern s : List Char} : OccursAt pattern s 1 ↔ pattern.isPrefixOf s := by
  rw [List.isPrefixOf_iff_prefix]
  constructor
  · rintro ⟨before, after, rfl, h⟩
    have hbefore : before = [] := List.length_eq_zero_iff.1 (by omega)
    exact ⟨after, by rw [hbefore, List.nil_append]⟩
  · rintro ⟨after, rfl⟩
    exact ⟨[], after, rfl, rfl⟩

theorem occursAt_cons_iff {pattern s : List Char} {c : Char} {k : Nat} :
    OccursAt pattern (c :: s) (k + 2) ↔ OccursAt pattern s (k + 1) := by
  constructor
  · rintro ⟨before, after, h, hk⟩
    cases before with
    | nil => cases hk
    | cons d before =>
      rw [List.cons_append, List.cons_append, List.cons.injEq] at h
      exact ⟨before, after, h.2, Nat.succ.inj hk⟩
  · rintro ⟨before, after, rfl, hk⟩
    exact ⟨c :: before, after, rfl, congrArg (· + 1) hk⟩

theorem le_of_mem_occurrencesFrom {pattern s : List Char} {i j : Nat}
    (h : j ∈ occurrencesFrom pattern i s) : i ≤ j := by
  induction s generalizing i with
  | nil =>
    rw [occurrencesFrom] at h
    split at h
    · exact Nat.le_of_eq (List.mem_singleton.1 h).symm
    · cases h
  | cons c s ih =>
    rw [occurrencesFrom] at h
    split at h
    · rcases List.mem_cons.1 h with rfl | h
      · exact Nat.le_refl _
      · exact Nat.le_of_succ_le (ih h)
    · exact Nat.le_of_succ_le (ih h)

theorem pairwise_occurrencesFrom (pattern s : List Char) (i : Nat) :
    (occurrencesFrom pattern i s).Pairwise (· < ·) := by
  induction s generalizing i with
  | nil =>
    rw [occurrencesFrom]
    split
    · exact List.pairwise_singleton _ _
    · exact .nil
  | cons c s ih =>
    rw [occurrencesFrom]
    split
    · exact .cons (fun j hj => le_of_mem_occurrencesFrom hj) (ih (i + 1))
    · exact ih (i + 1)

theorem mem_occurrencesFrom {pattern s : List Char} (hp : pattern ≠ []) {i j : Nat} :
    i + j ∈ occurrencesFrom pattern i s ↔ OccursAt pattern s (j + 1) := by
  induction s generalizing i j with
  | nil =>
    have hempty : pattern.isEmpty = false := List.isEmpty_eq_false_iff.2 hp
    rw [occurrencesFrom, hempty]
    refine iff_of_false List.not_mem_nil ?_
    rintro ⟨before, after, h, -⟩
    simp [hp] at h
  | cons c s ih =>
    rw [occurrencesFrom]
    cases j with
    | zero =>
      have hrest : i ∉ occurrencesFrom pattern (i + 1) s := fun h =>
        Nat.lt_irrefl i (le_of_mem_occurrencesFrom h)
      rw [occursAt_one_iff]
      split <;> simp_all
    | succ j =>
      have hj : i + (j + 1) ∈ occurrencesFrom pattern (i + 1) s ↔ OccursAt pattern s (j + 1) := by
        rw [show i + (j + 1) = i + 1 + j by omega]
        exact ih
      rw [occursAt_cons_iff, ← hj]
      split
      · rw [List.mem_cons]
        exact or_iff_right (by omega)
      · rfl

/-- The places from `start` on at which the pattern occurs, in increasing order. -/
def places (pattern s : List Char) (start : Int) : List Nat :=
  ((occurrences pattern s).filter fun i => (max start 1 - 1).toNat ≤ i).map (· + 1)

theorem pairwise_places (pattern s : List Char) (start : Int) :
    (places pattern s start).Pairwise (· < ·) := by
  have h := (pairwise_occurrencesFrom pattern s 0).filter fun i => (max start 1 - 1).toNat ≤ i
  exact h.map _ fun i j => Nat.succ_lt_succ

theorem mem_places {pattern s : List Char} (hp : pattern ≠ []) {start : Int} {k : Nat} :
    k ∈ places pattern s start ↔ OccursAt pattern s k ∧ max start 1 ≤ k := by
  have hmem (i : Nat) : i ∈ occurrences pattern s ↔ OccursAt pattern s (i + 1) := by
    have h := mem_occurrencesFrom hp (s := s) (i := 0) (j := i)
    rwa [Nat.zero_add] at h
  unfold places
  rw [List.mem_map]
  constructor
  · rintro ⟨i, hi, rfl⟩
    obtain ⟨hi, hstart⟩ := List.mem_filter.1 hi
    have hstart := of_decide_eq_true hstart
    exact ⟨(hmem i).1 hi, by omega⟩
  · rintro ⟨hocc, hstart⟩
    obtain ⟨i, rfl⟩ : ∃ i, k = i + 1 := ⟨k - 1, by omega⟩
    refine ⟨i, List.mem_filter.2 ⟨(hmem i).2 hocc, decide_eq_true ?_⟩, rfl⟩
    omega

theorem findOccurrence_eq {pattern : List Char} (hp : pattern ≠ []) (s : List Char)
    (start n : Int) :
    Operation.findOccurrence s pattern start n =
      (places pattern s start).getD (n - 1).toNat 0 := by
  have hempty : pattern.isEmpty = false := List.isEmpty_eq_false_iff.2 hp
  unfold Operation.findOccurrence places
  rw [hempty, if_neg Bool.false_ne_true, List.getD_eq_getElem?_getD, List.getElem?_map]
  dsimp only
  split <;> simp_all

theorem occursAt_findOccurrence {pattern s : List Char} (hp : pattern ≠ []) {start n : Int}
    (h : 0 < Operation.findOccurrence s pattern start n) :
    OccursAt pattern s (Operation.findOccurrence s pattern start n) := by
  rw [findOccurrence_eq hp, List.getD_eq_getElem?_getD] at h ⊢
  cases hget : (places pattern s start)[(n - 1).toNat]? with
  | none =>
    rw [hget] at h
    cases h
  | some k => exact ((mem_places hp).1 (List.mem_of_getElem? hget)).1

theorem OccursAt.length_le {pattern s : List Char} {k : Nat} (h : OccursAt pattern s k) :
    0 < k ∧ k - 1 + pattern.length ≤ s.length := by
  obtain ⟨before, after, rfl, rfl⟩ := h
  simp

theorem findOccurrence_le {pattern : List Char} (hp : pattern ≠ []) (s : List Char)
    (start n : Int) : Operation.findOccurrence s pattern start n ≤ s.length := by
  rcases Nat.eq_zero_or_pos (Operation.findOccurrence s pattern start n) with hzero | hpos
  · rw [hzero]
    exact Nat.zero_le _
  · have hlength := (occursAt_findOccurrence hp hpos).length_le
    have hpattern := List.length_pos_iff.2 hp
    omega

theorem slice_of_occursAt {pattern s : List Char} {k : Nat} (h : OccursAt pattern s k) :
    slice s (k - 1) (some pattern.length) = pattern := by
  obtain ⟨before, after, rfl, rfl⟩ := h
  simp [slice]

end Tabular.Text

namespace Tabular.Operation

open Text

theorem evalFind_integers (s p : String) (start : Int64) {n : Int64} (hn : 1 ≤ n.toInt) :
    evalFind (.string s) (.string p) (some (.integer start)) (some (.integer n)) =
      .ok (.integer (Int64.ofNat (findOccurrence s.toList p.toList start.toInt n.toInt))) := by
  change (if n.toInt < 1 then _ else _) = _
  exact if_neg (Int.not_lt.2 hn)

theorem evalSubstring_integers (s : String) {k l : Int64} (hk : 1 ≤ k.toInt)
    (hl : 0 ≤ l.toInt) :
    evalSubstring (.string s) (some (.integer k)) (some (.integer l)) =
      .ok (.string (String.ofList (slice s.toList (k.toInt - 1).toNat (some l.toInt.toNat)))) := by
  change (if k.toInt < 1 then _ else if l.toInt < 0 then _ else _) = _
  rw [if_neg (Int.not_lt.2 hk)]
  exact if_neg (Int.not_lt.2 hl)

theorem call_substring_of_occursAt (today : Date) {s p : String} (hs : s.length ≤ Integer.greatest)
    {k : Int64} {place : Nat} (hk : k.toInt = place) (h : OccursAt p.toList s.toList place) :
    ∃ l : Int64, length.call today [.string p] = .ok (.integer l) ∧
      substring.call today [.string s, .integer k, .integer l] = .ok (.string p) := by
  have hlength := h.length_le
  rw [String.length_toList, String.length_toList] at hlength
  have hl : (Int64.ofNat p.length).toInt = p.length := Integer.toInt_ofNat (by omega)
  refine ⟨Int64.ofNat p.length, rfl, ?_⟩
  change evalSubstring (.string s) (some (.integer k)) (some (.integer (Int64.ofNat p.length))) = _
  rw [evalSubstring_integers s (by omega) (by omega), hl, hk, Int.toNat_natCast,
    show ((place : Int) - 1).toNat = place - 1 by omega, ← String.length_toList,
    slice_of_occursAt h, String.ofList_toList]

/-- The operation gives the n-th of the places from `start` on at which the pattern occurs, in
    increasing order, and zero if there are fewer. It is in range if the length of the text is, and
    then what is cut out there in the length of the pattern is the pattern. -/
theorem call_find_places (today : Date) (s p : String) (hp : p ≠ "") (start n : Int64)
    (hn : 1 ≤ n.toInt) :
    ∃ places : List Nat, places.Pairwise (· < ·) ∧
      (∀ k, k ∈ places ↔ OccursAt p.toList s.toList k ∧ max start.toInt 1 ≤ k) ∧
      ∃ k : Int64,
        find.call today [.string s, .string p, .integer start, .integer n] = .ok (.integer k) ∧
        k = Int64.ofNat (places.getD (n.toInt - 1).toNat 0) ∧
        (s.length ≤ Integer.greatest →
          k.toInt = places.getD (n.toInt - 1).toNat 0 ∧
          (0 < k.toInt → ∃ l : Int64, length.call today [.string p] = .ok (.integer l) ∧
            substring.call today [.string s, .integer k, .integer l] = .ok (.string p))) := by
  have hp' : p.toList ≠ [] := fun h => hp (String.toList_eq_nil_iff.1 h)
  refine ⟨places p.toList s.toList start.toInt, pairwise_places _ _ _, fun k => mem_places hp', _,
    evalFind_integers s p start hn, by rw [findOccurrence_eq hp'], fun hs => ?_⟩
  have hle := findOccurrence_le hp' s.toList start.toInt n.toInt
  rw [String.length_toList] at hle
  have hvalue := Integer.toInt_ofNat (Int.le_trans (Int.ofNat_le.2 hle) hs)
  refine ⟨by rw [hvalue, findOccurrence_eq hp'], fun hpos => ?_⟩
  rw [hvalue] at hpos
  exact call_substring_of_occursAt today hs hvalue
    (occursAt_findOccurrence hp' (Int.natCast_pos.1 hpos))

theorem call_find_places_overlapping :
    find.call .epoch [.string "abababa", .string "aba", .integer 2, .integer 2] =
      .ok (.integer 5) ∧
    ∃ l : Int64, length.call .epoch [.string "aba"] = .ok (.integer l) ∧
      substring.call .epoch [.string "abababa", .integer 5, .integer l] = .ok (.string "aba") := by
  have hfive : find.call .epoch [.string "abababa", .string "aba", .integer 2, .integer 2] =
      .ok (.integer 5) := by decide +kernel
  obtain ⟨_, -, -, k, hcall, -, hcut⟩ :=
    call_find_places .epoch "abababa" "aba" (by decide) 2 2 (by decide)
  rw [hfive] at hcall
  cases hcall
  exact ⟨hfive, (hcut (by decide)).2 (by decide)⟩

end Tabular.Operation
