import Tabular.Proofs.Safety.Operations

set_option autoImplicit false

namespace Tabular

/-- The value fits the type or, if that is allowed for, is an integer in the place of a number. -/
def Value.Near (mixed : Prop) (v : Value) (t : Option ScalarType) : Prop :=
  v.Fits t ∨ mixed ∧ t = some .number ∧ v.type? = some .integer

namespace Value

variable {mixed : Prop} {v w : Value} {t : Option ScalarType}

theorem near_null (t : Option ScalarType) : Value.null.Near mixed t := .inl (fits_null t)

theorem Near.eq_null (h : v.Near mixed none) : v = .null := by
  rcases h with h | ⟨_, h, _⟩
  · exact h
  · cases h

theorem Near.fits (h : v.Near False t) : v.Fits t := by
  rcases h with h | h
  · exact h
  · exact h.1.elim

theorem Near.weaken {u : Option ScalarType} (h : v.Near mixed t) (ht : t = none ∨ t = u) :
    v.Near mixed u := by
  rcases ht with rfl | rfl
  · rw [h.eq_null]
    exact near_null u
  · exact h

theorem Near.getD (h : v.Near mixed t) (u : ScalarType) : v.Near mixed (some (t.getD u)) := by
  cases t with
  | none => exact h.weaken (.inl rfl)
  | some t => exact h

theorem Near.of_type_eq (h : v.Near mixed t) (hv : v.isNull = false) (hw : w.type? = v.type?) :
    w.Near mixed t := by
  rcases h with h | ⟨hm, ht, hi⟩
  · refine .inl ?_
    rw [← h.type_eq hv, ← hw]
    exact fits_type? w
  · exact .inr ⟨hm, ht, hw.trans hi⟩

theorem Near.number {a : ScalarType} (h : v.Near mixed (some a)) (ha : a.isNumeric = true)
    (hm : mixed) : v.Near mixed (some .number) := by
  cases a with
  | number => exact h
  | integer =>
    rcases h with h | ⟨_, h, _⟩
    · rcases conforms_iff.1 h with rfl | h
      · exact near_null _
      · exact .inr ⟨hm, rfl, h⟩
    · cases h
  | _ => cases ha

end Value

def Gives (t : ScalarType) (x : Except EvalError Value) : Prop :=
  ∀ v, x = .ok v → v.conforms t = true

section
variable {α : Type} {t : ScalarType}

theorem gives_ok {v : Value} (h : v.conforms t = true) : Gives t (.ok v) := by
  intro w hw
  cases hw
  exact h

theorem gives_error (e : EvalError) : Gives t (.error e) := by
  intro v hv
  cases hv

theorem gives_bind {x : Except EvalError α} {next : α → Except EvalError Value}
    (h : ∀ a, Gives t (next a)) : Gives t (x >>= next) := by
  cases x with
  | ok a => exact h a
  | error e => exact gives_error e

theorem gives_map {x : Except EvalError α} {f : α → Value} (h : ∀ a, (f a).conforms t = true) :
    Gives t (x.map f) := by
  cases x with
  | ok a => exact gives_ok (h a)
  | error e => exact gives_error e

theorem gives_ite {p : Prop} [Decidable p] {x y : Except EvalError Value} (hx : Gives t x)
    (hy : Gives t y) : Gives t (if p then x else y) := by
  split
  · exact hx
  · exact hy

theorem gives_safe {x : Except EvalError Value} (h : Safe (fun v => v.conforms t = true) x) :
    Gives t x := fun _ hv => h.of_ok hv

end

namespace Operation

theorem gives_checked (name : String) (n : Int) : Gives .integer (checked name n) :=
  gives_safe (safe_checked name n)

theorem gives_arithmetic (op : Arithmetic) {t : ScalarType} (ht : t.isNumeric = true)
    (v w : Value) : Gives t (evalArithmetic op t v w) := by
  unfold evalArithmetic
  cases t with
  | integer => exact gives_bind fun _ => gives_bind fun _ => gives_checked _ _
  | number => exact gives_bind fun _ => gives_bind fun _ => gives_ok rfl
  | _ => cases ht

theorem gives_modulo {t : ScalarType} (ht : t.isNumeric = true) (v w : Value) :
    Gives t (evalModulo t v w) := by
  unfold evalModulo
  cases t with
  | integer =>
    refine gives_bind fun x => gives_bind fun y => ?_
    exact gives_ite (gives_error _) (gives_ite (gives_error _) (gives_ok rfl))
  | number =>
    refine gives_bind fun x => gives_bind fun y => ?_
    exact gives_ite (gives_error _) (gives_ok rfl)
  | _ => cases ht

theorem gives_divide (v w : Value) : Gives .number (evalDivide v w) :=
  gives_bind fun _ => gives_bind fun _ => gives_ite (gives_error _) (gives_ok rfl)

theorem gives_substring (s : Value) (start length : Option Value) :
    Gives .string (evalSubstring s start length) := by
  refine gives_bind fun s => gives_bind fun first => gives_ite (gives_error _) ?_
  cases length with
  | none => exact gives_ok rfl
  | some n => exact gives_bind fun n => gives_ite (gives_error _) (gives_ok rfl)

theorem gives_replace (s pattern : Value) (replacement : Option Value) :
    Gives .string (evalReplace s pattern replacement) := by
  refine gives_bind fun s => gives_bind fun pattern => ?_
  cases replacement with
  | none => exact gives_ok rfl
  | some v => exact gives_bind fun _ => gives_ok rfl

theorem gives_find (s pattern : Value) (start occurrence : Option Value) :
    Gives .integer (evalFind s pattern start occurrence) :=
  gives_bind fun _ => gives_bind fun _ => gives_bind fun _ => gives_bind fun _ =>
    gives_ite (gives_error _) (gives_ok rfl)

theorem gives_matching (reader : PatternReader) (pattern : Option (String → Bool))
    (s source : Value) : Gives .boolean (evalMatching reader pattern s source) := by
  refine gives_bind fun s => ?_
  cases pattern with
  | none => exact gives_bind fun _ => gives_bind fun _ => gives_ok rfl
  | some p => exact gives_ok rfl

theorem gives_log (v base : Value) : Gives .number (evalLog v base) :=
  gives_bind fun _ => gives_bind fun _ => gives_bind fun _ => gives_bind fun _ =>
    gives_ite (gives_error _) (gives_ok rfl)

theorem gives_round (d : Number.Direction) (v : Value) (digits : Option Value) :
    Gives .number (evalRound d v digits) :=
  gives_bind fun _ => gives_bind fun _ => gives_ok rfl

theorem gives_whole (name : String) (v : Value) (f : Number → Number) :
    Gives .integer (v.expectNumber.bind fun x => wholeInteger name (f x)) :=
  gives_bind fun x => gives_safe (safe_wholeInteger name (f x))

/-- What the operation gives has its declared type by itself. -/
def Settled : Operation → Prop
  | .plus _ => False
  | .minus _ => False
  | .abs _ => False
  | .orElse _ => False
  | .arithmetic _ t => t.isNumeric = true
  | .modulo t => t.isNumeric = true
  | _ => True

theorem Settled.gives {op : Operation} (h : op.Settled) (today : Date) (args : List Value) :
    Gives op.result (op.compute today args) := by
  cases op with
  | plus t => exact h.elim
  | minus t => exact h.elim
  | abs t => exact h.elim
  | orElse t => exact h.elim
  | arithmetic op t => exact gives_arithmetic op h _ _
  | modulo t => exact gives_modulo h _ _
  | not => exact gives_map fun _ => rfl
  | divide => exact gives_divide _ _
  | concat => exact gives_ok rfl
  | compare c => exact gives_ok rfl
  | logic c => exact gives_ok (logic_conforms c _ _)
  | member set negated => exact gives_ok rfl
  | between => exact gives_ok rfl
  | cast t => exact gives_safe (safe_cast _ t)
  | length => exact gives_map fun _ => rfl
  | upper => exact gives_map fun _ => rfl
  | lower => exact gives_map fun _ => rfl
  | trim => exact gives_map fun _ => rfl
  | trimStart => exact gives_map fun _ => rfl
  | trimEnd => exact gives_map fun _ => rfl
  | substring => exact gives_substring _ _ _
  | replace => exact gives_replace _ _ _
  | find => exact gives_find _ _ _ _
  | matching reader pattern => exact gives_matching reader pattern _ _
  | ceil => exact gives_whole "ceil" _ _
  | floor => exact gives_whole "floor" _ _
  | round => exact gives_round .nearest _ _
  | trunc => exact gives_round .towardZero _ _
  | sqrt => exact gives_bind fun _ => gives_ite (gives_error _) (gives_ok rfl)
  | exp => exact gives_map fun _ => rfl
  | ln => exact gives_bind fun _ => gives_bind fun _ => gives_ok rfl
  | log => exact gives_log _ _
  | power => exact gives_bind fun _ => gives_bind fun _ => gives_ok rfl
  | isNull => exact gives_ok rfl
  | currentDate => exact gives_ok rfl
  | editDistance => exact gives_bind fun _ => gives_bind fun _ => gives_ok rfl

/-- On values near the types, a result is near the declared type. -/
def Keeps (mixed : Prop) (op : Operation) (types : List (Option ScalarType)) : Prop :=
  ∀ today args v, List.Forall₂ (Value.Near mixed) args types → op.call today args = .ok v →
    v.Near mixed (some op.result)

variable {mixed : Prop} {types : List (Option ScalarType)}

theorem Settled.keeps {op : Operation} (h : op.Settled) : op.Keeps mixed types := by
  intro today args v _ hv
  unfold call at hv
  split at hv
  · cases hv
    exact Value.near_null _
  · exact .inl (h.gives today args v hv)

theorem keeps_of_type {op : Operation} {t : Option ScalarType} (hs : op.isStrict = true)
    (ht : t = none ∨ t = some op.result)
    (h : ∀ today w v, op.compute today [w] = .ok v → v.type? = w.type?) :
    op.Keeps mixed [t] := by
  intro today args v ha hv
  cases ha with
  | cons hw hrest =>
    cases hrest
    rename_i w
    unfold call at hv
    split at hv
    · cases hv
      exact Value.near_null _
    · rename_i hn
      have hnull : w.isNull = false := by simpa [hs] using hn
      exact (hw.of_type_eq hnull (h today w v hv)).weaken ht

theorem checked_type {name : String} {n : Int} {v : Value} (h : checked name n = .ok v) :
    v.type? = some .integer := by
  unfold checked at h
  cases hc : Integer.check n with
  | some i =>
    rw [hc] at h
    cases h
    rfl
  | none =>
    rw [hc] at h
    cases h

theorem minus_type {v w : Value} (h : evalMinus w = .ok v) : v.type? = w.type? := by
  cases w with
  | integer i => exact checked_type h
  | number x =>
    cases h
    rfl
  | _ => cases h

theorem abs_type {v w : Value} (h : evalAbs w = .ok v) : v.type? = w.type? := by
  cases w with
  | integer i => exact checked_type h
  | number x =>
    cases h
    rfl
  | _ => cases h

theorem numericOrInteger_near {operator : String} {t : Option ScalarType}
    (h : Typing.expectNumeric operator t = .ok ()) :
    t = none ∨ t = some (Typing.numericOrInteger t) := by
  rcases Typing.expectNumeric_ok h with rfl | ⟨u, rfl, _⟩
  · exact .inl rfl
  · exact .inr rfl

theorem unary_keeps {op : UnaryOp} {t : Option ScalarType} {o : Operation}
    (h : unary op t = .ok o) : o.Keeps mixed [t] := by
  cases op with
  | plus =>
    obtain ⟨_, ht, h⟩ := ok_of_bind h
    cases eq_of_pure_ok h
    refine keeps_of_type rfl (numericOrInteger_near ht) fun today w v hv => ?_
    cases hv
    rfl
  | minus =>
    obtain ⟨_, ht, h⟩ := ok_of_bind h
    cases eq_of_pure_ok h
    exact keeps_of_type rfl (numericOrInteger_near ht) fun _ _ _ hv => minus_type hv
  | not =>
    obtain ⟨_, _, h⟩ := ok_of_bind h
    cases eq_of_pure_ok h
    exact Settled.keeps trivial

theorem numeric_isNumeric {operator : String} {l r : Option ScalarType} {t : ScalarType}
    (h : Typing.numeric operator l r = .ok t) : t.isNumeric = true := by
  unfold Typing.numeric at h
  split at h
  · rename_i hn
    obtain ⟨hl, hr⟩ := Bool.and_eq_true_iff.1 hn
    obtain ⟨u, hu, h⟩ := ok_of_bind h
    cases eq_of_pure_ok h
    have hnum : ∀ o : Option ScalarType, Typing.numericOrNull o = true →
        (o.getD .integer).isNumeric = true := by
      intro o ho
      cases o with
      | none => rfl
      | some a => exact ho
    rcases Typing.common_ok hu with ⟨_, rfl⟩ | ⟨_, rfl⟩ | ⟨_, rfl⟩ | ⟨_, _, _, _, _, _, _, rfl⟩
    · exact hnum _ hr
    · exact hnum _ hl
    · exact hnum _ hl
    · rfl
  · cases h

theorem binary_settled {op : BinaryOp} {l r : Option ScalarType} {o : Operation}
    (h : binary op l r = .ok o) : o.Settled := by
  cases op with
  | arithmetic a =>
    obtain ⟨t, ht, h⟩ := ok_of_bind h
    cases eq_of_pure_ok h
    exact numeric_isNumeric ht
  | divide =>
    obtain ⟨_, _, h⟩ := ok_of_bind h
    cases eq_of_pure_ok h
    trivial
  | concat =>
    obtain ⟨_, _, h⟩ := ok_of_bind h
    obtain ⟨_, _, h⟩ := ok_of_bind h
    cases eq_of_pure_ok h
    trivial
  | compare c =>
    obtain ⟨_, _, h⟩ := ok_of_bind h
    cases eq_of_pure_ok h
    trivial
  | logic c =>
    obtain ⟨_, _, h⟩ := ok_of_bind h
    obtain ⟨_, _, h⟩ := ok_of_bind h
    cases eq_of_pure_ok h
    trivial

theorem memberOf_settled {t : Option ScalarType} {set : List Value} {negated : Bool}
    {o : Operation} (h : memberOf t set negated = .ok o) : o.Settled := by
  obtain ⟨_, _, h⟩ := ok_of_bind h
  cases eq_of_pure_ok h
  trivial

/-- One of two values that are near the types of a choice is near its common type. If these are two
    different types, integers in the place of numbers have to be allowed for. -/
theorem orElse_keeps {operator : String} {l r t : Option ScalarType}
    (h : Typing.unify operator [l, r] = .ok t)
    (hm : some .integer ∈ [l, r] ∧ some .number ∈ [l, r] → mixed) :
    (orElse (t.getD .string)).Keeps mixed [l, r] := by
  have hc := Typing.unify_pair h
  intro today args v ha hv
  cases ha with
  | cons hx ha =>
    cases ha with
    | cons hy ha =>
      cases ha
      rename_i x y
      have hv : (if x.isNull then y else x) = v := Except.ok.inj hv
      subst hv
      change Value.Near mixed _ (some (t.getD .string))
      rcases Typing.common_ok hc with ⟨rfl, rfl⟩ | ⟨rfl, rfl⟩ | ⟨rfl, rfl⟩ |
        ⟨a, b, rfl, rfl, hna, hnb, hab, rfl⟩
      · rw [hx.eq_null]
        exact hy.getD .string
      · rw [hy.eq_null]
        split
        · exact Value.near_null _
        · exact hx.getD .string
      · split
        · exact hy.getD .string
        · exact hx.getD .string
      · -- Two different numeric types are an integer and a number.
        have hmixed : mixed := by
          refine hm ?_
          cases a <;> cases hna <;> cases b <;> cases hnb <;> simp at hab ⊢
        split
        · exact hy.number hnb hmixed
        · exact hx.number hna hmixed

theorem textOperation_ok {f : ScalarFunction} {n : Nat} {op o : Operation}
    (h : f.textOperation n types op = .ok o) : o = op := by
  obtain ⟨_, _, h⟩ := ok_of_bind h
  obtain ⟨_, _, h⟩ := ok_of_bind h
  exact (eq_of_pure_ok h).symm

theorem numericOperation_ok {f : ScalarFunction} {op o : Operation}
    (h : f.numericOperation types op = .ok o) :
    o = op ∧ Typing.expectAllNumeric f.name types = .ok () := by
  obtain ⟨_, ht, h⟩ := ok_of_bind h
  exact ⟨(eq_of_pure_ok h).symm, ht⟩

theorem roundingOperation_ok {f : ScalarFunction} {op o : Operation}
    (h : f.roundingOperation types op = .ok o) : o = op := by
  obtain ⟨_, _, h⟩ := ok_of_bind h
  obtain ⟨_, _, h⟩ := ok_of_bind h
  exact (eq_of_pure_ok h).symm

theorem typedOperation_keeps {f : ScalarFunction} {reader : PatternReader} {o : Operation}
    (h : f.typedOperation reader types = .ok o)
    (hl : f.arity.1 ≤ types.length ∧ types.length ≤ f.arity.2)
    (hm : f = .nvl → some .integer ∈ types ∧ some .number ∈ types → mixed) :
    o.Keeps mixed types := by
  obtain ⟨hlo, hhi⟩ := hl
  cases f with
  | length | upper | lower | trim | ltrim | rtrim | substr | replace | instr | matchCharacters
  | levenshtein =>
    rw [textOperation_ok h]
    exact Settled.keeps trivial
  | ceil | floor | sqrt | exp | ln | log | power =>
    rw [(numericOperation_ok h).1]
    exact Settled.keeps trivial
  | round | trunc =>
    rw [roundingOperation_ok h]
    exact Settled.keeps trivial
  | abs =>
    obtain ⟨rfl, ht⟩ := numericOperation_ok h
    obtain ⟨t, rfl⟩ := List.length_eq_one_iff.1 (Nat.le_antisymm hhi hlo)
    obtain ⟨_, ht, _⟩ := ok_of_bind ht
    exact keeps_of_type rfl (numericOrInteger_near ht) fun _ _ _ hv => abs_type hv
  | mod =>
    obtain ⟨t, ht, h⟩ := ok_of_bind h
    cases eq_of_pure_ok h
    exact Settled.keeps (numeric_isNumeric ht)
  | isNull =>
    cases h
    exact Settled.keeps trivial
  | nvl =>
    obtain ⟨t, ht, h⟩ := ok_of_bind h
    cases eq_of_pure_ok h
    obtain ⟨l, r, rfl⟩ := List.length_eq_two.1 (Nat.le_antisymm hhi hlo)
    exact orElse_keeps ht (hm rfl)
  | between =>
    obtain ⟨_, _, h⟩ := ok_of_bind h
    obtain ⟨_, _, h⟩ := ok_of_bind h
    cases eq_of_pure_ok h
    exact Settled.keeps trivial
  | currentDate =>
    cases h
    exact Settled.keeps trivial

theorem withPattern_ok {op o : Operation} {constants : List (Option Value)}
    (h : ScalarFunction.withPattern op constants = .ok o) : o = op ∨ o.Settled := by
  unfold ScalarFunction.withPattern at h
  split at h
  · unfold matchingOf at h
    split at h
    · cases h
      exact .inl rfl
    · obtain ⟨p, _, h⟩ := ok_of_bind h
      cases eq_of_pure_ok h
      exact .inr trivial
  · cases h
    exact .inl rfl

theorem operation_keeps {f : ScalarFunction} {reader : PatternReader}
    {constants : List (Option Value)} {o : Operation}
    (h : f.operation reader types constants = .ok o)
    (hm : f = .nvl → some .integer ∈ types ∧ some .number ∈ types → mixed) :
    o.Keeps mixed types := by
  obtain ⟨_, hl, h⟩ := ok_of_bind h
  obtain ⟨op, ho, h⟩ := ok_of_bind h
  have ha := Compile.typing_ok hl
  unfold Typing.arity at ha
  split at ha
  · rename_i hbounds
    rcases withPattern_ok (Compile.evaluation_ok h) with rfl | hs
    · exact typedOperation_keeps (Compile.typing_ok ho) hbounds hm
    · exact hs.keeps
  · cases ha

end Operation
end Tabular
