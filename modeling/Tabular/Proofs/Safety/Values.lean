import Mathlib.Data.List.Forall2
import Tabular.Operation.Build
import Tabular.Proofs.Outcome

set_option autoImplicit false

namespace Tabular

/-- A failure that depends on the data and that no check in advance rules out. -/
def EvalError.Foreseen : EvalError → Prop
  | .cast _ _ => True
  | .divisionByZero => True
  | .overflow _ => True
  | .invalidArgument _ _ => True
  | _ => False

section
variable {α β : Type}

def Safe (P : α → Prop) : Except EvalError α → Prop
  | .ok a => P a
  | .error e => e.Foreseen

theorem Safe.bind {P : α → Prop} {Q : β → Prop} {x : Except EvalError α}
    {next : α → Except EvalError β} (hx : Safe P x) (hn : ∀ a, P a → Safe Q (next a)) :
    Safe Q (x >>= next) := by
  cases x with
  | ok a => exact hn a hx
  | error e => exact hx

theorem Safe.imp {P Q : α → Prop} {x : Except EvalError α} (hx : Safe P x)
    (h : ∀ a, x = .ok a → P a → Q a) : Safe Q x := by
  cases x with
  | ok a => exact h a rfl hx
  | error e => exact hx

theorem Safe.of_ok {P : α → Prop} {x : Except EvalError α} {a : α} (hx : Safe P x)
    (h : x = .ok a) : P a := by
  rw [h] at hx
  exact hx

theorem Safe.with_ok {P : α → Prop} {x : Except EvalError α} (hx : Safe P x) :
    Safe (fun a => x = .ok a ∧ P a) x :=
  hx.imp fun _ h hp => ⟨h, hp⟩

end

namespace Value

/-- The value has the type, or is null where the type is that of the null literal. -/
def Fits (v : Value) : Option ScalarType → Prop
  | none => v = .null
  | some t => v.conforms t = true

theorem conforms_iff {v : Value} {t : ScalarType} :
    v.conforms t = true ↔ v = .null ∨ v.type? = some t := by
  cases v <;> simp [conforms, type?]

@[simp] theorem conforms_null (t : ScalarType) : Value.null.conforms t = true := rfl

@[simp] theorem fits_null (t : Option ScalarType) : Value.null.Fits t := by
  cases t with
  | none => rfl
  | some t => rfl

theorem Fits.conforms {v : Value} {o : Option ScalarType} (h : v.Fits o) {t : ScalarType}
    (ht : o = none ∨ o = some t) : v.conforms t = true := by
  rcases ht with rfl | rfl
  · cases h
    rfl
  · exact h

theorem Fits.getD {v : Value} {o : Option ScalarType} (h : v.Fits o) (t : ScalarType) :
    v.conforms (o.getD t) = true := by
  cases o with
  | none => exact h.conforms (.inl rfl)
  | some u => exact h

theorem Fits.type_eq {v : Value} {t : Option ScalarType} (h : v.Fits t) (hv : v.isNull = false) :
    v.type? = t := by
  cases t with
  | none =>
    cases h
    cases hv
  | some t =>
    rcases conforms_iff.1 h with rfl | h
    · cases hv
    · exact h

theorem fits_type? (v : Value) : v.Fits v.type? := by
  cases v <;> simp [Fits, type?, conforms]

theorem string_of_type {v : Value} (h : v.type? = some .string) : ∃ s, v = .string s := by
  cases v <;> simp [type?] at h
  exact ⟨_, rfl⟩

theorem integer_of_type {v : Value} (h : v.type? = some .integer) : ∃ i, v = .integer i := by
  cases v <;> simp [type?] at h
  exact ⟨_, rfl⟩

theorem boolean_of_type {v : Value} (h : v.type? = some .boolean) : ∃ b, v = .boolean b := by
  cases v <;> simp [type?] at h
  exact ⟨_, rfl⟩

theorem number_of_type {v : Value} {t : ScalarType} (h : v.type? = some t)
    (ht : t.isNumeric = true) : ∃ x, v.number? = some x := by
  cases v with
  | integer i => exact ⟨_, rfl⟩
  | number x => exact ⟨x, rfl⟩
  | null => cases h
  | _ =>
    cases h
    cases ht

theorem safe_expectNumber {v : Value} {x : Number} (h : v.number? = some x) :
    v.expectNumber = .ok x := by
  rw [expectNumber, h]

end Value

namespace Typing

theorem expect_ok {operator : String} {found : Option ScalarType} {t : ScalarType}
    (h : expect operator found t = .ok ()) : found = none ∨ found = some t := by
  cases found with
  | none => exact .inl rfl
  | some u =>
    unfold expect at h
    dsimp only at h
    split at h
    · rename_i hu
      exact .inr (congrArg some hu)
    · cases h

theorem expectNumeric_ok {operator : String} {found : Option ScalarType}
    (h : expectNumeric operator found = .ok ()) :
    found = none ∨ ∃ t, found = some t ∧ t.isNumeric = true := by
  cases found with
  | none => exact .inl rfl
  | some u =>
    unfold expectNumeric at h
    dsimp only at h
    split at h
    · rename_i hu
      exact .inr ⟨u, rfl, hu⟩
    · cases h

theorem expectAll_ok {operator : String} {t : ScalarType} {types : List (Option ScalarType)}
    (h : expectAll operator t types = .ok ()) : ∀ u ∈ types, u = none ∨ u = some t := by
  induction types with
  | nil => exact fun _ hu => absurd hu List.not_mem_nil
  | cons u types ih =>
    obtain ⟨_, hu, h⟩ := ok_of_bind h
    exact List.forall_mem_cons.2 ⟨expect_ok hu, ih h⟩

theorem expectAllNumeric_ok {operator : String} {types : List (Option ScalarType)}
    (h : expectAllNumeric operator types = .ok ()) :
    ∀ u ∈ types, u = none ∨ ∃ t, u = some t ∧ t.isNumeric = true := by
  induction types with
  | nil => exact fun _ hu => absurd hu List.not_mem_nil
  | cons u types ih =>
    obtain ⟨_, hu, h⟩ := ok_of_bind h
    exact List.forall_mem_cons.2 ⟨expectNumeric_ok hu, ih h⟩

theorem common_ok {operator : String} {l r t : Option ScalarType}
    (h : common operator l r = .ok t) :
    (l = none ∧ t = r) ∨ (r = none ∧ t = l) ∨ (l = r ∧ t = l) ∨
      ∃ a b, l = some a ∧ r = some b ∧ a.isNumeric = true ∧ b.isNumeric = true ∧ a ≠ b ∧
        t = some .number := by
  cases l with
  | none =>
    cases h
    exact .inl ⟨rfl, rfl⟩
  | some a =>
    cases r with
    | none =>
      cases h
      exact .inr (.inl ⟨rfl, rfl⟩)
    | some b =>
      unfold common at h
      dsimp only at h
      split at h
      · rename_i hab
        cases h
        exact .inr (.inr (.inl ⟨congrArg some hab, rfl⟩))
      · rename_i hab
        split at h
        · rename_i hn
          cases h
          obtain ⟨ha, hb⟩ := Bool.and_eq_true_iff.1 hn
          exact .inr (.inr (.inr ⟨a, b, rfl, rfl, ha, hb, hab, rfl⟩))
        · cases h

theorem common_none (operator : String) (t : Option ScalarType) :
    common operator none t = .ok t := by
  cases t <;> rfl

theorem unify_pair {operator : String} {l r t : Option ScalarType}
    (h : unify operator [l, r] = .ok t) : common operator l r = .ok t := by
  unfold unify unifyFrom at h
  rw [common_none] at h
  dsimp only at h
  unfold unifyFrom at h
  cases hc : common operator l r with
  | ok u =>
    rw [hc] at h
    exact h
  | error e =>
    rw [hc] at h
    cases h

theorem numeric_ok {operator : String} {a b t : ScalarType}
    (h : numeric operator (some a) (some b) = .ok t) :
    a.isNumeric = true ∧ b.isNumeric = true ∧
      (t = .integer ∧ a = .integer ∧ b = .integer ∨ t = .number) := by
  unfold numeric at h
  split at h
  · rename_i hn
    obtain ⟨ha, hb⟩ := Bool.and_eq_true_iff.1 hn
    obtain ⟨u, hu, h⟩ := ok_of_bind h
    cases eq_of_pure_ok h
    refine ⟨ha, hb, ?_⟩
    rcases common_ok hu with ⟨he, _⟩ | ⟨he, _⟩ | ⟨he, rfl⟩ | ⟨_, _, _, _, _, _, _, rfl⟩
    · cases he
    · cases he
    · cases he
      cases a with
      | integer => exact .inl ⟨rfl, rfl, rfl⟩
      | number => exact .inr rfl
      | _ => cases ha
    · exact .inr rfl
  · cases h

end Typing
end Tabular
