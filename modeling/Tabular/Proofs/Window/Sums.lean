import Mathlib.Data.List.Perm.Basic
import Tabular.Proofs.Safety.Values
import Tabular.Window.Aggregate

set_option autoImplicit false

/-!
# Sums of integers in any order

A sum of integers is added up from left to right and fails at the first partial sum out of range,
so it can depend on the order. Some order gives the exact sum, or an overflow where the exact sum
is out of range, and an order that does not give it gives an overflow. All orders give it if and
only if the exact sum is out of range or what is gained and what is lost each stay in range.
-/
namespace Tabular

namespace Integer

def total (weight : Int64 → Int) : List Int64 → Int
  | [] => 0
  | i :: is => weight i + total weight is

def gain (i : Int64) : Int := max i.toInt 0

def loss (i : Int64) : Int := min i.toInt 0

theorem total_perm (weight : Int64 → Int) {is js : List Int64} (h : is.Perm js) :
    total weight is = total weight js := by
  induction h with
  | nil => rfl
  | cons i _ ih => rw [total, total, ih]
  | swap i j is =>
    simp only [total]
    omega
  | trans _ _ ih ih' => exact ih.trans ih'

theorem total_append (weight : Int64 → Int) (is js : List Int64) :
    total weight (is ++ js) = total weight is + total weight js := by
  induction is with
  | nil => simp [total]
  | cons i is ih =>
    rw [List.cons_append, total, total, ih]
    omega

theorem total_le {weight weight' : Int64 → Int} {is : List Int64}
    (h : ∀ i ∈ is, weight i ≤ weight' i) : total weight is ≤ total weight' is := by
  induction is with
  | nil => exact Int.le_refl 0
  | cons i is ih =>
    obtain ⟨hi, his⟩ := List.forall_mem_cons.1 h
    have hrest := ih his
    simp only [total]
    omega

theorem total_zero (is : List Int64) : total (fun _ => 0) is = 0 := by
  induction is with
  | nil => rfl
  | cons i is ih => rw [total, ih]; rfl

theorem total_filter {weight : Int64 → Int} {p : Int64 → Bool} {is : List Int64}
    (h : ∀ i ∈ is, p i = false → weight i = 0) : total weight (is.filter p) = total weight is := by
  induction is with
  | nil => rfl
  | cons i is ih =>
    obtain ⟨hi, his⟩ := List.forall_mem_cons.1 h
    rw [List.filter_cons]
    cases hp : p i with
    | true => rw [if_pos rfl, total, total, ih his]
    | false => rw [if_neg Bool.false_ne_true, ih his, total, hi hp, Int.zero_add]

/-- The exact sum of the first integers, from `start` on, is out of range. -/
def Exceeds (start : Int) (is : List Int64) : Prop :=
  ∃ k, check (start + total Int64.toInt (is.take k)) = none

theorem not_exceeds_nil (acc : Int64) : ¬ Exceeds acc.toInt [] := by
  rintro ⟨k, hk⟩
  rw [List.take_nil, total, Int.add_zero, check_toInt] at hk
  cases hk

theorem exceeds_cons (acc i : Int64) (is : List Int64) :
    Exceeds acc.toInt (i :: is) ↔ Exceeds (acc.toInt + i.toInt) is := by
  constructor
  · rintro ⟨k, hk⟩
    cases k with
    | zero => exact absurd ⟨0, hk⟩ (not_exceeds_nil acc)
    | succ k =>
      rw [List.take_succ_cons, total, ← Int.add_assoc] at hk
      exact ⟨k, hk⟩
  · rintro ⟨k, hk⟩
    refine ⟨k + 1, ?_⟩
    rw [List.take_succ_cons, total, ← Int.add_assoc]
    exact hk

theorem exceeds_of_check {start : Int} {is : List Int64} (h : check start = none) :
    Exceeds start is :=
  ⟨0, by rw [List.take_zero, total, Int.add_zero]; exact h⟩

/-- The sum is out of range, or what is gained and what is lost are each in range. -/
def Steady (is : List Int64) : Prop :=
  check (total Int64.toInt is) = none ∨ total gain is ≤ greatest ∧ least ≤ total loss is

theorem not_exceeds_of_bounds {is : List Int64} (hg : total gain is ≤ greatest)
    (hl : least ≤ total loss is) : ¬ Exceeds 0 is := by
  rintro ⟨k, hk⟩
  have hgain : total gain (is.take k) + total gain (is.drop k) = total gain is := by
    rw [← total_append, List.take_append_drop]
  have hloss : total loss (is.take k) + total loss (is.drop k) = total loss is := by
    rw [← total_append, List.take_append_drop]
  have hnonneg : 0 ≤ total gain (is.drop k) := by
    rw [← total_zero (is.drop k)]
    exact total_le fun i _ => by simp only [gain]; omega
  have hnonpos : total loss (is.drop k) ≤ 0 := by
    rw [← total_zero (is.drop k)]
    exact total_le fun i _ => by simp only [loss]; omega
  have hbelow : total loss (is.take k) ≤ total Int64.toInt (is.take k) :=
    total_le fun i _ => by simp only [loss]; omega
  have habove : total Int64.toInt (is.take k) ≤ total gain (is.take k) :=
    total_le fun i _ => by simp only [gain]; omega
  rw [Int.zero_add, check_eq_none] at hk
  omega

theorem exists_selected_first {is : List Int64} (p : Int64 → Bool)
    (h : check (total Int64.toInt (is.filter p)) = none) :
    ∃ js, is.Perm js ∧ Exceeds 0 js := by
  refine ⟨is.filter p ++ is.filter fun i => !p i, (List.filter_append_perm p is).symm,
    (is.filter p).length, ?_⟩
  rw [List.take_left', Int.zero_add]
  · exact h
  · rfl

theorem exists_exceeding {is : List Int64}
    (h : ¬ (total gain is ≤ greatest ∧ least ≤ total loss is)) :
    ∃ js, is.Perm js ∧ Exceeds 0 js := by
  obtain hg | hl : greatest < total gain is ∨ total loss is < least := by omega
  · refine exists_selected_first (fun i => 0 ≤ i.toInt) (check_eq_none.2 (.inr ?_))
    have hfilter : total gain (is.filter fun i => 0 ≤ i.toInt) = total gain is :=
      total_filter fun i _ hi => by
        simp only [decide_eq_false_iff_not] at hi
        simp only [gain]
        omega
    have hsame : total gain (is.filter fun i => 0 ≤ i.toInt) ≤
        total Int64.toInt (is.filter fun i => 0 ≤ i.toInt) := total_le fun i hi => by
      have hi := of_decide_eq_true (List.mem_filter.1 hi).2
      simp only [gain]
      omega
    omega
  · refine exists_selected_first (fun i => i.toInt ≤ 0) (check_eq_none.2 (.inl ?_))
    have hfilter : total loss (is.filter fun i => i.toInt ≤ 0) = total loss is :=
      total_filter fun i _ hi => by
        simp only [decide_eq_false_iff_not] at hi
        simp only [loss]
        omega
    have hsame : total Int64.toInt (is.filter fun i => i.toInt ≤ 0) ≤
        total loss (is.filter fun i => i.toInt ≤ 0) := total_le fun i hi => by
      have hi := of_decide_eq_true (List.mem_filter.1 hi).2
      simp only [loss]
      omega
    omega

/-- On the way to a sum in range there is always an integer to be added next: one that brings the
    partial sum nearer to zero, or any if there is none. -/
theorem exists_next {acc : Int64} {is : List Int64} (hne : is ≠ [])
    (h : check (acc.toInt + total Int64.toInt is) ≠ none) :
    ∃ i ∈ is, ∃ next, check (acc.toInt + i.toInt) = some next := by
  by_contra hn
  have hout : ∀ i ∈ is, acc.toInt + i.toInt < least ∨
      greatest < acc.toInt + i.toInt := by
    intro i hi
    rw [← check_eq_none]
    by_contra hc
    exact hn ⟨i, hi, Option.ne_none_iff_exists'.1 hc⟩
  have hrange (i : Int64) : ¬ (i.toInt < least ∨ greatest < i.toInt) := by
    rw [← check_eq_none, check_toInt]
    exact nofun
  have hacc := hrange acc
  rw [Ne, check_eq_none] at h
  cases is with
  | nil => exact hne rfl
  | cons i is =>
    have hi := hout i (List.mem_cons_self ..)
    rw [total] at h
    rcases Int.le_total 0 acc.toInt with ha | ha
    · have hrest : 0 ≤ total Int64.toInt is := by
        rw [← total_zero is]
        refine total_le fun j hj => ?_
        have hj := hout j (List.mem_cons_of_mem _ hj)
        have := hrange j
        omega
      have := hrange i
      omega
    · have hrest : total Int64.toInt is ≤ 0 := by
        rw [← total_zero is]
        refine total_le fun j hj => ?_
        have hj := hout j (List.mem_cons_of_mem _ hj)
        have := hrange j
        omega
      have := hrange i
      omega

/-- A sum in range is reached in some order without leaving the range. -/
theorem exists_steady_order {acc : Int64} {is : List Int64}
    (h : check (acc.toInt + total Int64.toInt is) ≠ none) :
    ∃ js, is.Perm js ∧ ¬ Exceeds acc.toInt js := by
  induction hlen : is.length generalizing acc is with
  | zero =>
    rw [List.length_eq_zero_iff.1 hlen]
    exact ⟨[], .nil, not_exceeds_nil acc⟩
  | succ n ih =>
    obtain ⟨i, hi, next, hnext⟩ := exists_next (List.ne_nil_of_length_eq_add_one hlen) h
    have hperm := List.perm_cons_erase hi
    have hrest : check (next.toInt + total Int64.toInt (is.erase i)) ≠ none := by
      rw [total_perm _ hperm, total, ← Int.add_assoc] at h
      rw [toInt_of_check hnext]
      exact h
    obtain ⟨js, hjs, hx⟩ := ih hrest (by rw [List.length_erase_of_mem hi, hlen]; rfl)
    refine ⟨i :: js, hperm.trans (hjs.cons i), ?_⟩
    rw [exceeds_cons, ← toInt_of_check hnext]
    exact hx

end Integer

namespace WindowFunction

open Integer

theorem sumIntegers_eq (acc : Int64) (is : List Int64) :
    (Exceeds acc.toInt is → sumIntegers acc is = none) ∧
      (¬ Exceeds acc.toInt is →
        sumIntegers acc is = check (acc.toInt + total Int64.toInt is)) := by
  induction is generalizing acc with
  | nil =>
    refine ⟨fun h => absurd h (not_exceeds_nil acc), fun _ => ?_⟩
    rw [total, Int.add_zero, check_toInt, sumIntegers]
  | cons i is ih =>
    rw [exceeds_cons, sumIntegers, total, ← Int.add_assoc]
    cases hc : check (acc.toInt + i.toInt) with
    | none => exact ⟨fun _ => rfl, fun h => absurd (exceeds_of_check hc) h⟩
    | some next =>
      rw [← toInt_of_check hc]
      exact ih next

def integers (frame : List Value) : List Int64 := frame.filterMap Value.integer?

/-- The sum in exact arithmetic, which does not depend on the order: null where all values are
    null, and an overflow if it is out of range. -/
def exactSum (frame : List Value) : Except EvalError Value :=
  if frame.all Value.isNull then .ok .null
  else
    match check (total Int64.toInt (integers frame)) with
    | some i => .ok (.integer i)
    | none => .error (.overflow "sum")

section
variable {frame other : List Value}

theorem integers_perm (h : frame.Perm other) : (integers frame).Perm (integers other) :=
  h.filterMap _

theorem exactSum_perm (h : frame.Perm other) : exactSum frame = exactSum other := by
  unfold exactSum
  rw [h.all_eq, total_perm _ (integers_perm h)]

theorem integers_eq_nil (h : frame.all Value.isNull = true) : integers frame = [] := by
  refine List.filterMap_eq_nil_iff.2 fun v hv => ?_
  have hn := List.all_eq_true.1 h v hv
  cases v <;> first | rfl | cases hn

theorem numbers_eq_nil_iff (hf : ∀ v ∈ frame, v.conforms .integer = true) :
    (frame.filterMap Value.number?).isEmpty = frame.all Value.isNull := by
  induction frame with
  | nil => rfl
  | cons v frame ih =>
    obtain ⟨hv, hrest⟩ := List.forall_mem_cons.1 hf
    rcases Value.conforms_iff.1 hv with rfl | hv
    · exact ih hrest
    · obtain ⟨i, rfl⟩ := Value.integer_of_type hv
      rfl

theorem aggregate_sum (hf : ∀ v ∈ frame, v.conforms .integer = true) :
    sum.aggregate frame .integer =
      if frame.all Value.isNull then .ok .null
      else
        match sumIntegers 0 (integers frame) with
        | some i => .ok (.integer i)
        | none => .error (.overflow "sum") := by
  rw [← numbers_eq_nil_iff hf]
  rfl

theorem aggregate_sum_eq (hf : ∀ v ∈ frame, v.conforms .integer = true) :
    (Exceeds 0 (integers frame) → sum.aggregate frame .integer = .error (.overflow "sum")) ∧
      (¬ Exceeds 0 (integers frame) → sum.aggregate frame .integer = exactSum frame) := by
  obtain ⟨hover, hexact⟩ := sumIntegers_eq 0 (integers frame)
  rw [aggregate_sum hf]
  constructor
  · intro h
    rw [hover h]
    split
    · rename_i hn
      rw [integers_eq_nil hn] at h
      exact absurd h (not_exceeds_nil 0)
    · rfl
  · intro h
    have hsum := hexact h
    rw [show (0 : Int64).toInt + total Int64.toInt (integers frame) =
      total Int64.toInt (integers frame) from Int.zero_add _] at hsum
    rw [hsum, exactSum]

theorem perm_integers_append (hf : ∀ v ∈ frame, v.conforms .integer = true) :
    frame.Perm ((integers frame).map .integer ++ frame.filter Value.isNull) := by
  induction frame with
  | nil => exact .nil
  | cons v frame ih =>
    obtain ⟨hv, hrest⟩ := List.forall_mem_cons.1 hf
    rcases Value.conforms_iff.1 hv with rfl | hv
    · exact ((ih hrest).cons .null).trans List.perm_middle.symm
    · obtain ⟨i, rfl⟩ := Value.integer_of_type hv
      exact (ih hrest).cons (.integer i)

theorem exists_frame (hf : ∀ v ∈ frame, v.conforms .integer = true) {is : List Int64}
    (h : (integers frame).Perm is) : ∃ other, frame.Perm other ∧ integers other = is := by
  refine ⟨is.map .integer ++ frame.filter Value.isNull,
    (perm_integers_append hf).trans ((h.map _).append_right _), ?_⟩
  have hnulls : integers (frame.filter Value.isNull) = [] :=
    integers_eq_nil (List.all_eq_true.2 fun v hv => (List.mem_filter.1 hv).2)
  change List.filterMap Value.integer? _ = _
  rw [List.filterMap_append, List.filterMap_map]
  change is.filterMap some ++ integers (frame.filter Value.isNull) = is
  rw [hnulls, List.append_nil, List.filterMap_some]

theorem exactSum_of_check_none (h : check (total Int64.toInt (integers frame)) = none) :
    exactSum frame = .error (.overflow "sum") := by
  unfold exactSum
  split
  · rename_i hn
    rw [integers_eq_nil hn] at h
    cases h
  · rw [h]

theorem exactSum_of_check_some (h : check (total Int64.toInt (integers frame)) ≠ none) :
    exactSum frame ≠ .error (.overflow "sum") := by
  obtain ⟨i, hi⟩ := Option.ne_none_iff_exists'.1 h
  unfold exactSum
  rw [hi]
  split <;> exact nofun

theorem aggregate_perm (hf : ∀ v ∈ frame, v.conforms .integer = true) (h : frame.Perm other) :
    (Exceeds 0 (integers other) → sum.aggregate other .integer = .error (.overflow "sum")) ∧
      (¬ Exceeds 0 (integers other) → sum.aggregate other .integer = exactSum frame) := by
  rw [exactSum_perm h]
  exact aggregate_sum_eq fun v hv => hf v (h.mem_iff.2 hv)

theorem exists_exact_order (hf : ∀ v ∈ frame, v.conforms .integer = true) :
    ∃ other, frame.Perm other ∧ sum.aggregate other .integer = exactSum frame := by
  by_cases hc : check (total Int64.toInt (integers frame)) = none
  · have hx : Exceeds 0 (integers frame) := by
      refine ⟨(integers frame).length, ?_⟩
      rw [List.take_length, Int.zero_add]
      exact hc
    refine ⟨frame, .refl _, ?_⟩
    rw [(aggregate_perm hf (.refl _)).1 hx, exactSum_of_check_none hc]
  · have hstart : check ((0 : Int64).toInt + total Int64.toInt (integers frame)) ≠ none := by
      rw [show (0 : Int64).toInt = 0 from rfl, Int.zero_add]
      exact hc
    obtain ⟨is, his, hx⟩ := exists_steady_order hstart
    obtain ⟨other, ho, rfl⟩ := exists_frame hf his
    exact ⟨other, ho, (aggregate_perm hf ho).2 hx⟩

theorem exact_of_steady (hf : ∀ v ∈ frame, v.conforms .integer = true)
    (hs : Steady (integers frame)) (h : frame.Perm other) :
    sum.aggregate other .integer = exactSum frame := by
  rcases hs with hc | ⟨hg, hl⟩
  · by_cases hx : Exceeds 0 (integers other)
    · rw [(aggregate_perm hf h).1 hx, exactSum_of_check_none hc]
    · exact (aggregate_perm hf h).2 hx
  · rw [total_perm _ (integers_perm h)] at hg hl
    exact (aggregate_perm hf h).2 (not_exceeds_of_bounds hg hl)

theorem steady_of_exact (hf : ∀ v ∈ frame, v.conforms .integer = true)
    (hall : ∀ other, frame.Perm other → sum.aggregate other .integer = exactSum frame) :
    Steady (integers frame) := by
  by_contra hs
  obtain ⟨hc, hb⟩ := not_or.1 hs
  obtain ⟨is, his, hx⟩ := exists_exceeding hb
  obtain ⟨other, ho, rfl⟩ := exists_frame hf his
  refine exactSum_of_check_some hc ?_
  rw [← hall other ho]
  exact (aggregate_perm hf ho).1 hx

/-- A sum of integers and nulls is, in each order, the exact sum unless a partial sum is out of
    range, and then an overflow; in some order it is the exact sum. It is the same in all orders if
    and only if the sum is out of range or the gains and the losses are each in range. -/
theorem sum_perm_iff (hf : ∀ v ∈ frame, v.conforms .integer = true) :
    (∀ other, frame.Perm other →
      (Exceeds 0 (integers other) → sum.aggregate other .integer = .error (.overflow "sum")) ∧
      (¬ Exceeds 0 (integers other) → sum.aggregate other .integer = exactSum frame)) ∧
    (∃ other, frame.Perm other ∧ sum.aggregate other .integer = exactSum frame) ∧
    ((∀ other, frame.Perm other → sum.aggregate other .integer = sum.aggregate frame .integer ∧
      sum.aggregate other .integer = exactSum frame) ↔ Steady (integers frame)) := by
  refine ⟨fun other h => aggregate_perm hf h, exists_exact_order hf, fun hall => ?_,
    fun hs other h => ?_⟩
  · exact steady_of_exact hf fun other h => (hall other h).2
  · have hexact := exact_of_steady hf hs h
    exact ⟨hexact.trans (exact_of_steady hf hs (.refl frame)).symm, hexact⟩

end

def refund : List Value := [.integer 5, .null, .integer (-3), .null]

theorem sum_perm_iff_refund :
    (∀ v ∈ refund, v.conforms .integer = true) ∧ ∀ other, refund.Perm other →
      sum.aggregate other .integer = .ok (.integer 2) := by
  have hf : ∀ v ∈ refund, v.conforms .integer = true := by decide
  have hs : Steady (integers refund) := .inr (by decide)
  exact ⟨hf, fun other ho => ((sum_perm_iff hf).2.2.2 hs other ho).2⟩

/-- The greatest integer, one gained and one lost: the same frame in two orders. -/
theorem sum_of_peak :
    [Value.integer Int64.maxValue, .integer 1, .integer (-1)].Perm
        [.integer Int64.maxValue, .integer (-1), .integer 1] ∧
      sum.aggregate [.integer Int64.maxValue, .integer 1, .integer (-1)] .integer =
        .error (.overflow "sum") ∧
      sum.aggregate [.integer Int64.maxValue, .integer (-1), .integer 1] .integer =
        .ok (.integer Int64.maxValue) ∧
      exactSum [.integer Int64.maxValue, .integer 1, .integer (-1)] =
        .ok (.integer Int64.maxValue) :=
  ⟨(List.Perm.swap ..).cons _, rfl, rfl, rfl⟩

end WindowFunction
end Tabular
