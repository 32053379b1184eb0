import Mathlib.Data.List.Forall2
import Tabular.Proofs.Safety.Values
import Tabular.Rules.Hierarchy

set_option autoImplicit false

namespace Tabular

namespace HierarchyCheck

/-- The amount of a row, nothing for null. -/
abbrev Amount := Option Int

/-- What a group has for a code, nothing where it has no row. -/
abbrev Item := Option Amount

inductive Shows : Value → Amount → Prop
  | null : Shows .null none
  | integer (i : Int64) : Shows (.integer i) (some i.toInt)

def Emits (o : HierarchyOptions) (lhs : Item) (rhs : List Item) : Prop :=
  match o.validation, o.policy with
  | .nonNull, .skipIncomplete => ∀ x ∈ lhs :: rhs, ∃ n, x = some (some n)
  | .nonNull, .computeAvailable => lhs ≠ none ∧ ∃ x ∈ rhs, x ≠ none
  | .nonZero, _ => ∃ x ∈ lhs :: rhs, ∃ a, x = some a ∧ a ≠ some 0
  | .partialNull, _ => ∃ x ∈ lhs :: rhs, ∃ n, x = some (some n)
  | .partialZero, _ => ∃ x ∈ lhs :: rhs, ∃ n, x = some (some n)
  | .alwaysNull, _ => True
  | .alwaysZero, _ => True

def absentLeft (o : HierarchyOptions) : Amount :=
  match o.validation with
  | .nonZero => some 0
  | .partialZero => some 0
  | .alwaysZero => some 0
  | _ => none

/-- What a right-hand code without a row counts for. -/
def absentRight (o : HierarchyOptions) : Amount :=
  match o.validation, o.policy with
  | .nonNull, .computeAvailable => some 0
  | _, _ => absentLeft o

def signed : Sign → Int → Int
  | .plus, n => n
  | .minus, n => -n

def plus : Amount → Amount → Amount
  | some m, some n => some (m + n)
  | _, _ => none

def signedSum : List (Sign × Amount) → Amount
  | [] => some 0
  | (sign, a) :: rest => plus (a.map (signed sign)) (signedSum rest)

def difference (a b : Amount) : Amount := plus a (b.map (signed .minus))

/-- The comparison of two amounts, unknown beside null. -/
def verdict (op : BinaryOp) : Amount → Amount → Option Bool
  | some m, some n => some (op.holds (compare m n))
  | _, _ => none

def leftAmount (o : HierarchyOptions) (item : String → Item) (rule : HierarchyRule) : Amount :=
  (item rule.lhs).getD (absentLeft o)

def rightAmount (o : HierarchyOptions) (item : String → Item) (rule : HierarchyRule) : Amount :=
  signedSum (rule.rhs.map fun i => (i.sign, (item i.code).getD (absentRight o)))

/-- The value of a code shows its item. -/
def ShowsItem (v : Option Value) (x : Item) : Prop := Option.Rel Shows v x

theorem ShowsItem.getD {v : Option Value} {x : Item} (h : ShowsItem v x) {w : Value} {a : Amount}
    (hw : Shows w a) : Shows (v.getD w) (x.getD a) := by
  cases h with
  | none => exact hw
  | some h => exact h

variable {o : HierarchyOptions} {v w : Value} {a b : Amount}

theorem Shows.isNull (h : Shows v a) : v.isNull = a.isNone := by
  cases h <;> rfl

theorem Shows.null_or_not_zero (h : Shows v a) : (v.isNull || !v.isZero) = decide (a ≠ some 0) := by
  cases h with
  | null => rfl
  | integer i =>
    have hz : (i == 0) = decide (i.toInt = 0) := by
      rw [Bool.eq_iff_iff, beq_iff_eq, decide_eq_true_iff]
      exact Int64.toInt_inj.symm
    simp [Value.isNull, Value.isZero, hz]

theorem absentLeft_shows (o : HierarchyOptions) :
    Shows (missingLeft o .integer) (absentLeft o) := by
  unfold missingLeft absentLeft
  cases o.validation with
  | nonZero => exact .integer 0
  | partialZero => exact .integer 0
  | alwaysZero => exact .integer 0
  | _ => exact .null

theorem absentRight_shows (o : HierarchyOptions) :
    Shows (missingRight o .integer) (absentRight o) := by
  have hleft := absentLeft_shows o
  unfold missingRight absentRight
  cases hv : o.validation with
  | nonNull =>
    cases hp : o.policy with
    | computeAvailable => exact .integer 0
    | skipIncomplete => simpa using hleft
  | _ => simpa using hleft

section
variable {vs : List (Option Value)} {xs : List Item} (h : List.Forall₂ ShowsItem vs xs)
include h

theorem present_any {p : Value → Bool} {P : Amount → Prop}
    (hp : ∀ v a, Shows v a → (p v = true ↔ P a)) :
    (vs.filterMap id).any p = true ↔ ∃ x ∈ xs, ∃ a, x = some a ∧ P a := by
  induction h with
  | nil => simp
  | cons hx _ ih =>
    cases hx with
    | none => simpa using ih
    | some hs =>
      rw [List.exists_mem_cons_iff, ← ih]
      simp [hp _ _ hs]

theorem any_isSome : vs.any Option.isSome = true ↔ ∃ x ∈ xs, x ≠ none := by
  induction h with
  | nil => simp
  | cons hx _ ih =>
    cases hx with
    | none => simpa using ih
    | some hs => simp

theorem complete_iff :
    (vs.all Option.isSome && (vs.filterMap id).all (!·.isNull)) = true ↔
      ∀ x ∈ xs, ∃ n, x = some (some n) := by
  induction h with
  | nil => simp
  | cons hx _ ih =>
    cases hx with
    | none => simp
    | some hs =>
      rw [List.forall_mem_cons, ← ih]
      cases hs <;> simp [Value.isNull]

end

theorem not_isNull_iff (h : Shows v a) : (!v.isNull) = true ↔ ∃ n, a = some n := by
  rw [h.isNull]
  cases a <;> simp

theorem emits_iff (o : HierarchyOptions) {lhs : Option Value} {x : Item} (hl : ShowsItem lhs x)
    {vs : List (Option Value)} {xs : List Item} (h : List.Forall₂ ShowsItem vs xs) :
    emits o lhs vs = true ↔ Emits o x xs := by
  have hall : List.Forall₂ ShowsItem (lhs :: vs) (x :: xs) := .cons hl h
  have hpartial : ((lhs :: vs).filterMap id).any (!·.isNull) = true ↔
      ∃ y ∈ x :: xs, ∃ n, y = some (some n) := by
    rw [present_any hall fun _ _ hs => not_isNull_iff hs]
    refine exists_congr fun y => and_congr_right fun _ => ?_
    constructor
    · rintro ⟨_, rfl, n, rfl⟩
      exact ⟨n, rfl⟩
    · rintro ⟨n, rfl⟩
      exact ⟨_, rfl, n, rfl⟩
  unfold emits Emits
  cases o.validation with
  | nonNull =>
    cases o.policy with
    | skipIncomplete => exact complete_iff hall
    | computeAvailable =>
      dsimp only
      rw [Bool.and_eq_true_iff, any_isSome h]
      cases hl <;> simp
  | nonZero =>
    refine present_any hall fun _ _ hs => ?_
    rw [hs.null_or_not_zero, decide_eq_true_iff]
  | partialNull => exact hpartial
  | partialZero => exact hpartial
  | alwaysNull => simp
  | alwaysZero => simp

theorem plus_zero (a : Amount) : plus a (some 0) = a := by
  cases a with
  | none => rfl
  | some n => simp [plus]

theorem zero_plus (a : Amount) : plus (some 0) a = a := by
  cases a with
  | none => rfl
  | some n => simp [plus]

theorem plus_assoc (a b c : Amount) : plus (plus a b) c = plus a (plus b c) := by
  cases a <;> cases b <;> cases c <;> simp [plus, Int.add_assoc]

theorem combine_shows {sign : Sign} {u : Value} (ha : Shows v a) (hb : Shows w b)
    (h : combine sign v w = .ok u) : Shows u (plus a (b.map (signed sign))) := by
  cases ha with
  | null => cases hb <;> cases h <;> exact .null
  | integer i =>
    cases hb with
    | null =>
      cases h
      exact .null
    | integer j =>
      simp only [combine] at h
      cases hc : Integer.check (exactSum sign i.toInt j.toInt) with
      | none =>
        rw [hc] at h
        cases h
      | some k =>
        rw [hc] at h
        cases h
        have hk : k.toInt = i.toInt + signed sign j.toInt := by
          rw [Integer.toInt_of_check hc]
          cases sign <;> simp [exactSum, signed, Int.sub_eq_add_neg]
        change Shows _ (some (i.toInt + signed sign j.toInt))
        rw [← hk]
        exact .integer k

theorem total_shows {missing acc u : Value} {am : Amount} (hm : Shows missing am)
    (ha : Shows acc a) {items : List (Sign × Option Value)} {xs : List (Sign × Item)}
    (h : List.Forall₂ (fun p q => p.1 = q.1 ∧ ShowsItem p.2 q.2) items xs)
    (ht : total missing acc items = .ok u) :
    Shows u (plus a (signedSum (xs.map fun p => (p.1, p.2.getD am)))) := by
  induction h generalizing acc a with
  | nil =>
    cases ht
    rw [List.map_nil, signedSum, plus_zero]
    exact ha
  | cons hpq _ ih =>
    obtain ⟨next, hn, ht⟩ := ok_of_bind ht
    have hstep := combine_shows ha (hpq.2.getD hm) hn
    rw [List.map_cons, signedSum, ← plus_assoc, ← hpq.1]
    exact ih hstep ht

theorem compareSides_eq (op : BinaryOp) (ha : Shows v a) (hb : Shows w b) :
    compareSides op v w = verdict op a b := by
  cases ha <;> cases hb <;> rfl

/-- The result of a rule is that of the table, for the items the values of the codes show. -/
structure Follows (o : HierarchyOptions) (item : String → Item) (rule : HierarchyRule)
    (r : HierarchyResult) : Prop where
  lhs : Shows r.lhs (leftAmount o item rule)
  imbalance : Shows r.imbalance (difference (leftAmount o item rule) (rightAmount o item rule))
  holds : r.holds = verdict rule.op (leftAmount o item rule) (rightAmount o item rule)

theorem evaluateRule_follows {value : String → Option Value} {item : String → Item}
    (hv : ∀ code, ShowsItem (value code) (item code)) {rule : HierarchyRule}
    {res : Option HierarchyResult} (h : evaluateRule o .integer value rule = .ok res) :
    (res = none ∧ ¬ Emits o (item rule.lhs) (rule.rhs.map fun i => item i.code)) ∨
      ∃ r, res = some r ∧ Emits o (item rule.lhs) (rule.rhs.map fun i => item i.code) ∧
        Follows o item rule r := by
  have hitems : List.Forall₂ ShowsItem
      ((rule.rhs.map fun i => (i.sign, value i.code)).map (·.2))
      (rule.rhs.map fun i => item i.code) := by
    rw [List.map_map, List.forall₂_map_left_iff, List.forall₂_map_right_iff]
    exact List.forall₂_same.2 fun i _ => hv i.code
  have hpairs : List.Forall₂
      (fun (p : Sign × Option Value) (q : Sign × Item) => p.1 = q.1 ∧ ShowsItem p.2 q.2)
      (rule.rhs.map fun i => (i.sign, value i.code))
      (rule.rhs.map fun i => (i.sign, item i.code)) := by
    rw [List.forall₂_map_left_iff, List.forall₂_map_right_iff]
    exact List.forall₂_same.2 fun i _ => ⟨rfl, hv i.code⟩
  have hemits := emits_iff o (hv rule.lhs) hitems
  unfold evaluateRule at h
  dsimp only at h
  split at h
  · rename_i he
    obtain ⟨right, hr, h⟩ := ok_of_bind h
    obtain ⟨imbalance, hi, h⟩ := ok_of_bind h
    cases eq_of_pure_ok h
    have hleft := (hv rule.lhs).getD (absentLeft_shows o)
    have hright : Shows right (rightAmount o item rule) := by
      have ht := total_shows (absentRight_shows o) (.integer 0) hpairs hr
      rw [List.map_map] at ht
      rw [rightAmount, ← zero_plus (signedSum _)]
      exact ht
    refine .inr ⟨_, rfl, hemits.1 he, hleft, combine_shows hleft hright hi, ?_⟩
    exact compareSides_eq rule.op hleft hright
  · rename_i he
    cases h
    exact .inl ⟨rfl, fun hx => he (hemits.2 hx)⟩

end HierarchyCheck
end Tabular
