import Mathlib.Data.List.Forall2
import Tabular.Compile.Error

set_option autoImplicit false

namespace Tabular

variable {ε α β γ δ : Type}

theorem ok_of_bind {step : Except ε α} {next : α → Except ε β} {b : β}
    (h : step >>= next = .ok b) : ∃ a, step = .ok a ∧ next a = .ok b := by
  cases step with
  | ok a => exact ⟨a, rfl, h⟩
  | error e => cases h

theorem eq_of_pure_ok {a b : α} (h : (pure a : Except ε α) = .ok b) : a = b := by
  cases h
  rfl

theorem liftModel_ok {x : Except ModelError α} {a : α} (h : liftModel x = .ok a) : x = .ok a := by
  cases x with
  | ok b => cases h; rfl
  | error e => cases h

theorem exists_mem_zip {as : List α} {bs : List β} (h : as.length = bs.length) {b : β}
    (hb : b ∈ bs) : ∃ a, (a, b) ∈ as.zip bs := by
  obtain ⟨i, hi, rfl⟩ := List.getElem_of_mem hb
  have hz : i < (as.zip bs).length := by simp [h, hi]
  exact ⟨as[i], by rw [← List.getElem_zip (h := hz)]; exact List.getElem_mem hz⟩

theorem exists_left_of_mem {R : α → β → Prop} {as : List α} {bs : List β}
    (h : List.Forall₂ R as bs) {b : β} (hb : b ∈ bs) : ∃ a ∈ as, R a b := by
  obtain ⟨a, hz⟩ := exists_mem_zip h.length_eq hb
  exact ⟨a, (List.of_mem_zip hz).1, List.forall₂_zip h hz⟩

theorem map_eq_ok {f : α → β} {x : Except ε α} {b : β} :
    x.map f = .ok b ↔ ∃ a, x = .ok a ∧ f a = b := by
  cases x <;> simp [Except.map]

theorem map_eq_error {f : α → β} {x : Except ε α} {e : ε} :
    x.map f = .error e ↔ x = .error e := by
  cases x <;> simp [Except.map]

theorem mapM_eq_ok {f : α → Except ε β} {xs : List α} {ys : List β} :
    xs.mapM f = .ok ys ↔ List.Forall₂ (fun x y => f x = .ok y) xs ys := by
  induction xs generalizing ys with
  | nil =>
    constructor
    · intro h
      cases h
      exact .nil
    · intro h
      cases h
      rfl
  | cons x xs ih =>
    rw [List.mapM_cons]
    constructor
    · intro h
      obtain ⟨y, hy, h⟩ := ok_of_bind h
      obtain ⟨more, hmore, h⟩ := ok_of_bind h
      cases eq_of_pure_ok h
      exact .cons hy (ih.1 hmore)
    · intro h
      cases h with
      | cons hy hmore =>
        rw [hy, ih.2 hmore]
        rfl

theorem exists_mapM_error {f : α → Except ε β} {xs : List α} :
    (∃ e, xs.mapM f = .error e) ↔ ∃ x ∈ xs, ∃ e, f x = .error e := by
  induction xs with
  | nil => exact ⟨nofun, nofun⟩
  | cons x xs ih =>
    rw [List.mapM_cons, List.exists_mem_cons_iff, ← ih]
    cases hx : f x with
    | error e => exact ⟨fun _ => .inl ⟨e, rfl⟩, fun _ => ⟨e, rfl⟩⟩
    | ok y =>
      cases hxs : xs.mapM f with
      | error e => exact ⟨fun _ => .inr ⟨e, rfl⟩, fun _ => ⟨e, rfl⟩⟩
      | ok ys => exact ⟨nofun, fun h => h.elim nofun nofun⟩

/-- Both fail with the same error, or both succeed with related results. -/
inductive Paired (R : α → β → Prop) : Except ε α → Except ε β → Prop
  | ok {a : α} {b : β} (h : R a b) : Paired R (.ok a) (.ok b)
  | error (e : ε) : Paired R (.error e) (.error e)

namespace Paired

variable {R : α → β → Prop} {S : γ → δ → Prop}

theorem bind {x : Except ε α} {y : Except ε β} {f : α → Except ε γ} {g : β → Except ε δ}
    (h : Paired R x y) (hn : ∀ a b, R a b → Paired S (f a) (g b)) :
    Paired S (x >>= f) (y >>= g) := by
  cases h with
  | ok h => exact hn _ _ h
  | error e => exact .error e

theorem bind_same (x : Except ε α) {f : α → Except ε γ} {g : α → Except ε δ}
    (h : ∀ a, Paired S (f a) (g a)) : Paired S (x >>= f) (x >>= g) := by
  cases x with
  | ok a => exact h a
  | error e => exact .error e

theorem bind_ok (x : Except ε α) {f : α → Except ε γ} {g : α → Except ε δ}
    (h : ∀ a, x = .ok a → Paired S (f a) (g a)) : Paired S (x >>= f) (x >>= g) := by
  cases x with
  | ok a => exact h a rfl
  | error e => exact .error e

theorem imp {R' : α → β → Prop} {x : Except ε α} {y : Except ε β} (h : Paired R x y)
    (hR : ∀ a b, R a b → R' a b) : Paired R' x y := by
  cases h with
  | ok h => exact .ok (hR _ _ h)
  | error e => exact .error e

theorem refl {R : α → α → Prop} (hR : ∀ a, R a a) (x : Except ε α) : Paired R x x := by
  cases x with
  | ok a => exact .ok (hR a)
  | error e => exact .error e

theorem eq {x y : Except ε α} (h : Paired Eq x y) : x = y := by
  cases h with
  | ok h => rw [h]
  | error e => rfl

/-- The same failure, if either fails. -/
theorem error_iff {x : Except ε α} {y : Except ε β} (h : Paired R x y) (e : ε) :
    x = .error e ↔ y = .error e := by
  cases h with
  | ok h => exact ⟨nofun, nofun⟩
  | error e => exact ⟨fun h => by cases h; rfl, fun h => by cases h; rfl⟩

end Paired

/-- Both fail, for whatever reasons, or both succeed with related results. -/
inductive Matched (R : α → β → Prop) : Except ε α → Except ε β → Prop
  | ok {a : α} {b : β} (h : R a b) : Matched R (.ok a) (.ok b)
  | error (e e' : ε) : Matched R (.error e) (.error e')

namespace Matched

variable {R : α → β → Prop} {S : γ → δ → Prop}

theorem bind {x : Except ε α} {y : Except ε β} {f : α → Except ε γ} {g : β → Except ε δ}
    (h : Matched R x y)
    (hn : ∀ a b, x = .ok a → y = .ok b → R a b → Matched S (f a) (g b)) :
    Matched S (x >>= f) (y >>= g) := by
  cases h with
  | ok h => exact hn _ _ rfl rfl h
  | error e e' => exact .error e e'

theorem bind_same (x : Except ε α) {f : α → Except ε γ} {g : α → Except ε δ}
    (h : ∀ a, x = .ok a → Matched S (f a) (g a)) : Matched S (x >>= f) (x >>= g) := by
  cases x with
  | ok a => exact h a rfl
  | error e => exact .error e e

theorem imp {R' : α → β → Prop} {x : Except ε α} {y : Except ε β} (h : Matched R x y)
    (hR : ∀ a b, x = .ok a → y = .ok b → R a b → R' a b) : Matched R' x y := by
  cases h with
  | ok h => exact .ok (hR _ _ rfl rfl h)
  | error e e' => exact .error e e'

theorem trans {T : α → γ → Prop} {R' : β → γ → Prop} {x : Except ε α} {y : Except ε β}
    {z : Except ε γ} (h : Matched R x y) (h' : Matched R' y z)
    (hT : ∀ a b c, R a b → R' b c → T a c) : Matched T x z := by
  cases h with
  | ok h =>
    cases h' with
    | ok h' => exact .ok (hT _ _ _ h h')
  | error e e' =>
    cases h' with
    | error _ e'' => exact .error e e''

theorem lift {x : Except ModelError α} {y : Except ModelError β} (h : Matched R x y) :
    Matched R (liftModel x) (liftModel y) := by
  cases h with
  | ok h => exact .ok h
  | error e e' => exact .error _ _

end Matched

namespace Compile

theorem located_ok {p : Position} {x : Except CompileFault α} {a : α}
    (h : located p x = .ok a) : x = .ok a := by
  cases x with
  | ok b => cases h; rfl
  | error e => cases h

theorem typing_ok {x : Except TypingError α} {a : α} (h : typing x = .ok a) : x = .ok a := by
  cases x with
  | ok b => cases h; rfl
  | error e => cases h

theorem located_paired {R : α → β → Prop} (p : Position) {x : Except CompileFault α}
    {y : Except CompileFault β} (h : Paired R x y) : Paired R (located p x) (located p y) := by
  cases h with
  | ok h => exact .ok h
  | error e => exact .error _

theorem evaluation_ok {x : Except EvalError α} {a : α} (h : evaluation x = .ok a) : x = .ok a := by
  cases x with
  | ok b => cases h; rfl
  | error e => cases h

end Compile
end Tabular
