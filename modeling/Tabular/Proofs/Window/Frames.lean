import Tabular.Proofs.Comparing
import Tabular.Proofs.Number.Comparison
import Tabular.Proofs.Window.Arrangement

set_option autoImplicit false

namespace Tabular

namespace Integer

theorem toInt_max (i j : Int64) : (max i j).toInt = max i.toInt j.toInt := by
  change (if i ≤ j then j else i).toInt = _
  split
  · rename_i hle
    rw [Int.max_eq_right (Int64.le_iff_toInt_le.1 hle)]
  · rename_i hgt
    have hgt := mt Int64.le_iff_toInt_le.2 hgt
    rw [Int.max_eq_left (by omega)]

theorem toInt_min (i j : Int64) : (min i j).toInt = min i.toInt j.toInt := by
  change (if i ≤ j then i else j).toInt = _
  split
  · rename_i hle
    rw [Int.min_eq_left (Int64.le_iff_toInt_le.1 hle)]
  · rename_i hgt
    have hgt := mt Int64.le_iff_toInt_le.2 hgt
    rw [Int.min_eq_right (by omega)]

theorem toInt_ofNat_pred {n : Nat} (h : n ≤ greatest) :
    (Int64.ofNat n - 1).toInt = (n : Int) - 1 := by
  have hvalue := toInt_ofNat h
  unfold greatest at h
  rw [Int64.toInt_sub, hvalue]
  exact Int.bmod_eq_of_le (by change _ ≤ (n : Int) - 1; omega) (by change (n : Int) - 1 < _; omega)

end Integer

namespace Window

open Sorting (OrderedOn)

def Frame.Selects (f : Frame) (j : Nat) : Prop := f.first ≤ j ∧ j < f.last

section
variable {pos len : Nat}

theorem pointsFrame_eq (hpos : pos < len) (hlen : len ≤ Integer.greatest) (b : Bounds) :
    pointsFrame pos len b =
      if min (pos + b.last.toInt) (len - 1) < max (pos + b.first.toInt) 0 then ⟨0, 0⟩
      else ⟨(max (pos + b.first.toInt) 0).toNat,
        (min (pos + b.last.toInt) (len - 1)).toNat + 1⟩ := by
  have hvalue : (Int64.ofNat pos).toInt = pos := Integer.toInt_ofNat (by omega)
  have hleast := Int64.le_toInt b.first
  have hleast' := Int64.le_toInt b.last
  have hlast : (min (Integer.addClamped (Int64.ofNat pos) b.last) (Int64.ofNat len - 1)).toInt =
      min (pos + b.last.toInt) (len - 1) := by
    rw [Integer.toInt_min, Integer.toInt_addClamped, hvalue, Integer.toInt_ofNat_pred hlen]
    unfold Integer.least
    omega
  have hfirst : (max (Integer.addClamped (Int64.ofNat pos) b.first) 0).toInt =
      max (min Integer.greatest (pos + b.first.toInt)) 0 := by
    rw [Integer.toInt_max, Integer.toInt_addClamped, hvalue]
    unfold Integer.least Integer.greatest
    change max _ (0 : Int) = _
    omega
  unfold pointsFrame
  simp only [Int64.lt_iff_toInt_lt, hfirst, hlast]
  by_cases hfit : pos + b.first.toInt ≤ Integer.greatest
  · rw [Int.min_eq_right hfit]
  · -- The first position is beyond the range, and so beyond the partition.
    rw [if_pos (by omega), if_pos (by omega)]

theorem selects_pointsFrame_iff (hpos : pos < len) (hlen : len ≤ Integer.greatest) (b : Bounds)
    (j : Nat) :
    (pointsFrame pos len b).Selects j ↔
      j < len ∧ b.first.toInt ≤ (j : Int) - pos ∧ (j : Int) - pos ≤ b.last.toInt := by
  rw [pointsFrame_eq hpos hlen, Frame.Selects]
  split
  · dsimp only
    omega
  · dsimp only
    omega

theorem pointsFrame_within (hpos : pos < len) (hlen : len ≤ Integer.greatest) (b : Bounds) :
    (pointsFrame pos len b).first ≤ (pointsFrame pos len b).last ∧
      (pointsFrame pos len b).last ≤ len := by
  rw [pointsFrame_eq hpos hlen]
  split
  · exact ⟨Nat.le_refl 0, Nat.zero_le len⟩
  · dsimp only
    omega

/-- A window in rows selects exactly the rows of the partition whose distance from the current one
    is within its bounds, and a bound that stands for none leaves no row out. No position is wrapped
    around: a sum out of range is brought to the end of the range, and all else is exact. -/
theorem pointsFrame_exact (hpos : pos < len) (hlen : len ≤ Integer.greatest) (b : Bounds) :
    (pointsFrame pos len b).first ≤ (pointsFrame pos len b).last ∧
    (pointsFrame pos len b).last ≤ len ∧
    (∀ j : Nat, (pointsFrame pos len b).Selects j ↔
      j < len ∧ b.first.toInt ≤ (j : Int) - pos ∧ (j : Int) - pos ≤ b.last.toInt) ∧
    (∀ j < len, (b.first = Int64.minValue → b.first.toInt ≤ (j : Int) - pos) ∧
      (b.last = Int64.maxValue → (j : Int) - pos ≤ b.last.toInt)) ∧
    (Int64.ofNat pos).toInt = pos ∧ (Int64.ofNat len - 1).toInt = (len : Int) - 1 ∧
    ∀ o : Int64, (Integer.addClamped (Int64.ofNat pos) o).toInt =
      max Integer.least (min Integer.greatest (pos + o.toInt)) := by
  have hvalue : (Int64.ofNat pos).toInt = pos := Integer.toInt_ofNat (by omega)
  obtain ⟨hordered, hwithin⟩ := pointsFrame_within hpos hlen b
  refine ⟨hordered, hwithin, selects_pointsFrame_iff hpos hlen b, fun j hj => ⟨fun h => ?_,
    fun h => ?_⟩, hvalue, Integer.toInt_ofNat_pred hlen, fun o => ?_⟩
  · have hleast : b.first.toInt = Integer.least := by rw [h]; rfl
    unfold Integer.least at hleast
    unfold Integer.greatest at hlen
    omega
  · have hgreatest : b.last.toInt = Integer.greatest := by rw [h]; rfl
    omega
  · rw [Integer.toInt_addClamped, hvalue]

theorem pointsFrame_exact_following :
    (3 < 5 ∧ (5 : Nat) ≤ Integer.greatest) ∧
      pointsFrame 3 5 ⟨-1, Int64.maxValue⟩ = ⟨2, 5⟩ ∧
      ∀ j, (pointsFrame 3 5 ⟨-1, Int64.maxValue⟩).Selects j ↔ j < 5 ∧ -1 ≤ (j : Int) - 3 := by
  have hpos : 3 < 5 := by decide
  have hlen : (5 : Nat) ≤ Integer.greatest := by decide
  obtain ⟨-, -, hselects, hfree, -⟩ := pointsFrame_exact hpos hlen ⟨-1, Int64.maxValue⟩
  refine ⟨⟨hpos, hlen⟩, by decide, fun j => (hselects j).trans ?_⟩
  constructor
  · rintro ⟨hj, hfirst, -⟩
    exact ⟨hj, hfirst⟩
  · rintro ⟨hj, hfirst⟩
    exact ⟨hj, hfirst, (hfree j hj).2 rfl⟩

end

def keyOrder : Option Number → Option Number → Ordering
  | none, none => .eq
  | none, some _ => .lt
  | some _, none => .gt
  | some x, some y => x.order y

/-- Keys in ascending order with the missing ones first, or in descending order with these last. -/
def SortedKeys (descending : Bool) (keys : List (Option Number)) : Prop :=
  keys.Pairwise fun k l => (if descending then keyOrder l k else keyOrder k l).isLE

instance (descending : Bool) (keys : List (Option Number)) :
    Decidable (SortedKeys descending keys) :=
  inferInstanceAs (Decidable (List.Pairwise _ _))

def Convex (p : Option Number → Bool) : Prop :=
  ∀ a b c, (keyOrder a b).isLE → (keyOrder b c).isLE → p a = true → p c = true → p b = true

theorem convex_isNone : Convex Option.isNone := by
  rintro a b c - hbc - hc
  obtain rfl := Option.isNone_iff_eq_none.1 hc
  cases b with
  | none => rfl
  | some y => cases hbc

theorem insideInterval_iff {low high : Number} {k : Option Number} :
    insideInterval low high k = true ↔
      ∃ x, k = some x ∧ low.atMost x = true ∧ x.atMost high = true := by
  cases k with
  | none => simp [insideInterval]
  | some x => simp [insideInterval]

theorem convex_insideInterval (low high : Number) : Convex (insideInterval low high) := by
  intro a b c hab hbc ha hc
  obtain ⟨x, rfl, hlow, -⟩ := insideInterval_iff.1 ha
  obtain ⟨z, rfl, -, hhigh⟩ := insideInterval_iff.1 hc
  obtain ⟨hlow, hx, hlx⟩ := (Number.atMost_iff low x).1 hlow
  obtain ⟨hz, hhigh, hzh⟩ := (Number.atMost_iff z high).1 hhigh
  cases b with
  | none => cases hab
  | some y =>
    have hy := Number.isNaN_of_between hx hz hab hbc
    have hxy := Number.level_le_of_order hab
    have hyz := Number.level_le_of_order hbc
    exact insideInterval_iff.2 ⟨y, rfl, (Number.atMost_iff low y).2 ⟨hlow, hy, by omega⟩,
      (Number.atMost_iff y high).2 ⟨hy, hhigh, by omega⟩⟩

section
variable {p : Option Number → Bool} {keys : List (Option Number)}

theorem firstRun_of_pos {k : Option Number} (h : p k = true) :
    firstRun p (k :: keys) = ⟨0, (keys.takeWhile p).length + 1⟩ := by
  simp [firstRun, h]

theorem firstRun_of_neg {k : Option Number} (h : p k = false) :
    firstRun p (k :: keys) = ⟨(firstRun p keys).first + 1, (firstRun p keys).last + 1⟩ := by
  simp [firstRun, h, Nat.add_right_comm]

theorem firstRun_within (p : Option Number → Bool) (keys : List (Option Number)) :
    (firstRun p keys).first ≤ (firstRun p keys).last ∧
      (firstRun p keys).last ≤ keys.length := by
  induction keys with
  | nil => exact ⟨Nat.le_refl 0, Nat.le_refl 0⟩
  | cons k keys ih =>
    cases h : p k with
    | true =>
      rw [firstRun_of_pos h]
      exact ⟨Nat.zero_le _, Nat.succ_le_succ (List.takeWhile_sublist p).length_le⟩
    | false =>
      rw [firstRun_of_neg h, List.length_cons]
      dsimp only
      omega

def Satisfies (p : Option Number → Bool) (keys : List (Option Number)) (j : Nat) : Prop :=
  ∃ k, keys[j]? = some k ∧ p k = true

theorem satisfies_zero {k : Option Number} : Satisfies p (k :: keys) 0 ↔ p k = true := by
  simp [Satisfies]

theorem satisfies_succ {k : Option Number} {j : Nat} :
    Satisfies p (k :: keys) (j + 1) ↔ Satisfies p keys j := by
  simp [Satisfies]

theorem lt_length_takeWhile_iff (h : keys.Pairwise fun k l => p l = true → p k = true) (j : Nat) :
    j < (keys.takeWhile p).length ↔ Satisfies p keys j := by
  induction keys generalizing j with
  | nil => simp [Satisfies]
  | cons k keys ih =>
    obtain ⟨hhead, hrest⟩ := List.pairwise_cons.1 h
    cases hk : p k with
    | true =>
      rw [List.takeWhile_cons_of_pos hk, List.length_cons]
      cases j with
      | zero => simp [satisfies_zero, hk]
      | succ j => rw [satisfies_succ, Nat.add_lt_add_iff_right, ih hrest]
    | false =>
      rw [List.takeWhile_cons_of_neg (Bool.eq_false_iff.1 hk)]
      refine iff_of_false (Nat.not_lt_zero j) ?_
      rintro ⟨l, hl, hp⟩
      rcases List.mem_cons.1 (List.mem_of_getElem? hl) with rfl | hl
      · exact Bool.eq_false_iff.1 hk hp
      · exact Bool.eq_false_iff.1 hk (hhead l hl hp)

/-- In sorted keys the first run is all there is. -/
theorem selects_firstRun_iff (hp : Convex p) {descending : Bool} (h : SortedKeys descending keys)
    (j : Nat) : (firstRun p keys).Selects j ↔ Satisfies p keys j := by
  induction keys generalizing j with
  | nil => simp [Satisfies, firstRun, Frame.Selects]
  | cons k keys ih =>
    obtain ⟨hhead, hrest⟩ := List.pairwise_cons.1 h
    cases hk : p k with
    | true =>
      -- A key of the run stands first, so the others are before any key that is none of it.
      have hprefix : keys.Pairwise fun l l' => p l' = true → p l = true := by
        refine hrest.imp_of_mem fun {l l'} hl _ hll' hp' => ?_
        have hkl := hhead l hl
        cases descending with
        | false => exact hp k l l' hkl hll' hk hp'
        | true => exact hp l' l k hll' hkl hp' hk
      rw [firstRun_of_pos hk, Frame.Selects]
      cases j with
      | zero => simp [satisfies_zero, hk]
      | succ j =>
        rw [satisfies_succ, ← lt_length_takeWhile_iff hprefix]
        dsimp only
        omega
    | false =>
      rw [firstRun_of_neg hk]
      cases j with
      | zero => simp [Frame.Selects, satisfies_zero, hk]
      | succ j =>
        rw [satisfies_succ, ← ih hrest]
        simp [Frame.Selects]

end

/-- The frame of the row at a position, found from the keys of its partition: all rows without a
    key if it has none, otherwise all with a key in the closed interval computed from its key. -/
structure Framed (keys : List (Option Number)) (pos : Nat) (b : Bounds) (descending : Bool)
    (f : Frame) : Prop where
  ordered : f.first ≤ f.last
  within : f.last ≤ keys.length
  missing : keys[pos]? = some none → ∀ j, f.Selects j ↔ keys[j]? = some none
  inside : ∀ key, keys[pos]? = some (some key) → ∀ j, f.Selects j ↔
    ∃ k, keys[j]? = some (some k) ∧ (keyInterval key b descending).1.atMost k = true ∧
      k.atMost (keyInterval key b descending).2 = true

theorem framed_rangeFrame {descending : Bool} {keys : List (Option Number)}
    (h : SortedKeys descending keys) {pos : Nat} (hpos : pos < keys.length) (b : Bounds) :
    Framed keys pos b descending (rangeFrame keys pos b descending) := by
  have hget : keys[pos]? = some keys[pos] := List.getElem?_eq_getElem hpos
  have hgetD : keys.getD pos none = keys[pos] := by
    rw [List.getD_eq_getElem?_getD, hget]
    rfl
  cases hkey : keys[pos] with
  | none =>
    rw [hkey] at hget hgetD
    have hframe : rangeFrame keys pos b descending = firstRun Option.isNone keys := by
      rw [rangeFrame, hgetD]
    obtain ⟨hordered, hwithin⟩ := firstRun_within Option.isNone keys
    rw [hframe]
    refine ⟨hordered, hwithin, fun _ j => ?_, fun key hk => ?_⟩
    · rw [selects_firstRun_iff convex_isNone h, Satisfies]
      simp
    · rw [hget] at hk
      cases hk
  | some key =>
    rw [hkey] at hget hgetD
    have hframe : rangeFrame keys pos b descending =
        firstRun (insideInterval (keyInterval key b descending).1
          (keyInterval key b descending).2) keys := by
      rw [rangeFrame, hgetD]
    obtain ⟨hordered, hwithin⟩ := firstRun_within
      (insideInterval (keyInterval key b descending).1 (keyInterval key b descending).2) keys
    rw [hframe]
    refine ⟨hordered, hwithin, fun hk => ?_, fun other hk j => ?_⟩
    · rw [hget] at hk
      cases hk
    · rw [hget] at hk
      cases hk
      rw [selects_firstRun_iff (convex_insideInterval _ _) h, Satisfies]
      constructor
      · rintro ⟨k, hj, hk⟩
        obtain ⟨x, rfl, hx⟩ := insideInterval_iff.1 hk
        exact ⟨x, hj, hx⟩
      · rintro ⟨x, hj, hx⟩
        exact ⟨some x, hj, insideInterval_iff.2 ⟨x, rfl, hx⟩⟩

theorem keyOrder_isLE {t : ScalarType} (ht : t.isNumeric = true) {u v : Value}
    (hu : u.conforms t = true) (hv : v.conforms t = true) (h : (u.order v).isLE) :
    (keyOrder u.number? v.number?).isLE := by
  have hnumber {w : Value} (hw : w.type? = some t) : ∃ x, w.number? = some x := by
    cases w <;> cases hw <;> first | exact ⟨_, rfl⟩ | cases ht
  rcases Value.conforms_iff.1 hu with rfl | hu
  · cases v.number? <;> rfl
  · rcases Value.conforms_iff.1 hv with rfl | hv
    · rw [Value.eq_null_of_isLE h]
      rfl
    · obtain ⟨x, hx⟩ := hnumber hu
      obtain ⟨y, hy⟩ := hnumber hv
      rw [hx, hy]
      exact Value.number_isLE hx hy h

theorem sortedKeys_sortedMembers {t : ScalarType} (ht : t.isNumeric = true) {i : Nat}
    {members : List Member} (hm : ∀ m ∈ members, (Row.cell m.2 i).conforms t = true)
    (descending : Bool) :
    SortedKeys descending
      ((sortedMembers [(i, descending)] members).map fun m => (Row.cell m.2 i).number?) := by
  have hcell := (Value.order_orderedOn t).comap (f := fun m : Member => Row.cell m.2 i)
    (Q := fun m => (Row.cell m.2 i).conforms t = true) fun _ h => h
  have hrest : OrderedOn (fun m : Member => (Row.cell m.2 i).conforms t = true)
      fun m n => compareRows [] m.2 n.2 := ⟨fun _ _ => rfl, fun _ _ _ _ _ _ _ _ => rfl⟩
  have hone {o : Ordering} (h : (o.then .eq).isLE) : o.isLE :=
    (Ordering.isLE_then_iff_and.1 h).1
  have hmem {m : Member} (h : m ∈ sortedMembers [(i, descending)] members) :
      (Row.cell m.2 i).conforms t = true := hm m ((Sorting.sort_perm _ members).mem_iff.1 h)
  rw [SortedKeys, List.pairwise_map]
  cases descending with
  | false =>
    refine (Sorting.sort_pairwise (hcell.lex hrest) hm).imp_of_mem fun {m n} h h' hle => ?_
    exact keyOrder_isLE ht (hmem h) (hmem h') (hone hle)
  | true =>
    refine (Sorting.sort_pairwise (hcell.reverse.lex hrest) hm).imp_of_mem fun {m n} h h' hle => ?_
    have hle := hone hle
    rw [Value.order_swap] at hle
    exact keyOrder_isLE ht (hmem h') (hmem h) hle

/-- Range frames are complete. In keys that are sorted the frame of each row is all rows without a
    key, or all whose key is in the interval, and the keys of a partition that is sorted by one
    numeric column are sorted: from these keys its frames are found. -/
theorem rangeFrame_complete (b : Bounds) (descending : Bool) :
    (∀ (keys : List (Option Number)) (pos : Nat), SortedKeys descending keys → pos < keys.length →
      Framed keys pos b descending (rangeFrame keys pos b descending)) ∧
    ∀ (c : WindowCall) (measure t : ScalarType) (source i : Nat) (members : List Member),
      c.window = some (.range b) → t.isNumeric = true →
      (∀ m ∈ members, (Row.cell m.2 i).conforms t = true) →
      ∃ sorted keys, sorted.Perm members ∧
        keys = sorted.map (fun m => (Row.cell m.2 i).number?) ∧ SortedKeys descending keys ∧
        evaluatePartition c measure source [(i, descending)] members =
          evaluateFrom c.function measure source sorted (rangeFrame keys · b descending) 0
            sorted := by
  refine ⟨fun keys pos h hpos => framed_rangeFrame h hpos b, ?_⟩
  intro c measure t source i members hc ht hm
  refine ⟨sortedMembers [(i, descending)] members, _, Sorting.sort_perm _ members, rfl,
    sortedKeys_sortedMembers ht hm descending, ?_⟩
  unfold evaluatePartition
  rw [hc]
  cases descending <;> rfl

def ranking : List (Option Number) :=
  [some Number.nan, some 4.0, some 2.0, some 2.0, none]

def unranked : List Member :=
  [(0, [.integer 1]), (1, [.null]), (2, [.integer 4]), (3, [.integer 2])]

def countAbove : WindowCall where
  function := .count
  source := "k"
  target := "n"
  orderBy := [⟨"k", true⟩]
  window := some (.range ⟨-2, 0⟩)

theorem rangeFrame_complete_ranking :
    SortedKeys true ranking ∧ Framed ranking 2 ⟨-2, 0⟩ true ⟨1, 4⟩ ∧
    Framed ranking 0 ⟨-2, 0⟩ true ⟨5, 5⟩ ∧ Framed ranking 4 ⟨-2, 0⟩ true ⟨4, 5⟩ ∧
    (∀ m ∈ unranked, (Row.cell m.2 0).conforms .integer = true) ∧
    ∃ sorted keys, sorted.Perm unranked ∧
      keys = sorted.map (fun m => (Row.cell m.2 0).number?) ∧ SortedKeys true keys ∧
      evaluatePartition countAbove .integer 0 [(0, true)] unranked =
        evaluateFrom .count .integer 0 sorted (rangeFrame keys · ⟨-2, 0⟩ true) 0 sorted := by
  have hsorted : SortedKeys true ranking := by decide +kernel
  have hconforms : ∀ m ∈ unranked, (Row.cell m.2 0).conforms .integer = true := by decide
  obtain ⟨hframed, hpartition⟩ := rangeFrame_complete ⟨-2, 0⟩ true
  have hframe {pos : Nat} {f : Frame} (hpos : pos < ranking.length)
      (hf : rangeFrame ranking pos ⟨-2, 0⟩ true = f) : Framed ranking pos ⟨-2, 0⟩ true f :=
    hf ▸ hframed ranking pos hsorted hpos
  refine ⟨hsorted, hframe (by decide) ?_, hframe (by decide) ?_, hframe (by decide) ?_,
    hconforms, hpartition countAbove .integer .integer 0 0 unranked rfl rfl hconforms⟩
  · decide +kernel
  · decide +kernel
  · decide +kernel

end Window
end Tabular
