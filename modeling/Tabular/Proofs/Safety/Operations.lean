import Tabular.Compile.Call
import Tabular.Proofs.Safety.Values
import Tabular.Proofs.Texts

set_option autoImplicit false

namespace Tabular.Operation

/-- The operation is safe on values that fit the types. -/
def Sound (op : Operation) (types : List (Option ScalarType)) : Prop :=
  ∀ today args, List.Forall₂ Value.Fits args types →
    Safe (fun v => v.conforms op.result = true) (op.call today args)

theorem types_of_fits {args : List Value} {types : List (Option ScalarType)}
    (h : List.Forall₂ Value.Fits args types) (hn : ∀ v ∈ args, v.isNull = false) :
    args.map Value.type? = types := by
  induction h with
  | nil => rfl
  | cons hv _ ih =>
    obtain ⟨hv', hn⟩ := List.forall_mem_cons.1 hn
    rw [List.map_cons, hv.type_eq hv', ih hn]

/-- A strict operation only acts on values that have exactly the types. -/
theorem sound_of_strict {op : Operation} {types : List (Option ScalarType)}
    (hs : op.isStrict = true)
    (h : ∀ today args, args.map Value.type? = types → none ∉ types →
      Safe (fun v => v.conforms op.result = true) (op.compute today args)) : op.Sound types := by
  intro today args ha
  unfold call
  split
  · exact Value.conforms_null _
  · rename_i hn
    have hn : ∀ v ∈ args, v.isNull = false := by
      rw [hs, Bool.true_and] at hn
      simpa using hn
    have ht := types_of_fits ha hn
    refine h today args ht fun hm => ?_
    rw [← ht] at hm
    obtain ⟨v, hv, he⟩ := List.mem_map.1 hm
    have := hn v hv
    cases v <;> cases he
    cases this

theorem one_arg {args : List Value} {t : Option ScalarType} (h : args.map Value.type? = [t]) :
    ∃ v, args = [v] ∧ v.type? = t := by
  obtain ⟨v, rest, rfl, hv, hr⟩ := List.map_eq_cons_iff.1 h
  rw [List.map_eq_nil_iff] at hr
  exact ⟨v, by rw [hr], hv⟩

theorem two_args {args : List Value} {t u : Option ScalarType}
    (h : args.map Value.type? = [t, u]) :
    ∃ v w, args = [v, w] ∧ v.type? = t ∧ w.type? = u := by
  obtain ⟨v, rest, rfl, hv, hr⟩ := List.map_eq_cons_iff.1 h
  obtain ⟨w, rfl, hw⟩ := one_arg hr
  exact ⟨v, w, rfl, hv, hw⟩

theorem safe_checked (name : String) (n : Int) :
    Safe (fun v => v.conforms .integer = true) (checked name n) := by
  unfold checked
  cases Integer.check n with
  | some i => exact rfl
  | none => trivial

theorem safe_arithmetic {op : Arithmetic} {a b t : ScalarType} {symbol : String} {v w : Value}
    (h : Typing.numeric symbol (some a) (some b) = .ok t) (hv : v.type? = some a)
    (hw : w.type? = some b) :
    Safe (fun v => v.conforms t = true) (evalArithmetic op t v w) := by
  obtain ⟨ha, hb, ⟨rfl, rfl, rfl⟩ | rfl⟩ := Typing.numeric_ok h
  · obtain ⟨i, rfl⟩ := Value.integer_of_type hv
    obtain ⟨j, rfl⟩ := Value.integer_of_type hw
    exact safe_checked _ _
  · obtain ⟨x, hx⟩ := Value.number_of_type hv ha
    obtain ⟨y, hy⟩ := Value.number_of_type hw hb
    unfold evalArithmetic
    rw [if_neg (by decide), Value.safe_expectNumber hx, Value.safe_expectNumber hy]
    exact rfl

theorem safe_modulo {a b t : ScalarType} {symbol : String} {v w : Value}
    (h : Typing.numeric symbol (some a) (some b) = .ok t) (hv : v.type? = some a)
    (hw : w.type? = some b) :
    Safe (fun v => v.conforms t = true) (evalModulo t v w) := by
  obtain ⟨ha, hb, ⟨rfl, rfl, rfl⟩ | rfl⟩ := Typing.numeric_ok h
  · obtain ⟨i, rfl⟩ := Value.integer_of_type hv
    obtain ⟨j, rfl⟩ := Value.integer_of_type hw
    change Safe _ (if j.toInt = 0 then _ else _)
    split
    · trivial
    · split
      · trivial
      · exact rfl
  · obtain ⟨x, hx⟩ := Value.number_of_type hv ha
    obtain ⟨y, hy⟩ := Value.number_of_type hw hb
    unfold evalModulo
    rw [if_neg (by decide), Value.safe_expectNumber hx, Value.safe_expectNumber hy]
    change Safe _ (if y.isZero then _ else _)
    split
    · trivial
    · exact rfl

theorem safe_divide {v w : Value} {x y : Number} (hx : v.number? = some x)
    (hy : w.number? = some y) : Safe (fun v => v.conforms .number = true) (evalDivide v w) := by
  unfold evalDivide
  rw [Value.safe_expectNumber hx, Value.safe_expectNumber hy]
  change Safe _ (if y.isZero then _ else _)
  split
  · trivial
  · exact rfl

theorem safe_minus {v : Value} {t : ScalarType} (hv : v.type? = some t)
    (ht : t.isNumeric = true) : Safe (fun v => v.conforms t = true) (evalMinus v) := by
  cases v with
  | integer i =>
    cases hv
    exact safe_checked _ _
  | number x =>
    cases hv
    exact rfl
  | null => cases hv
  | _ =>
    cases hv
    cases ht

theorem safe_abs {v : Value} {t : ScalarType} (hv : v.type? = some t)
    (ht : t.isNumeric = true) : Safe (fun v => v.conforms t = true) (evalAbs v) := by
  cases v with
  | integer i =>
    cases hv
    exact safe_checked _ _
  | number x =>
    cases hv
    exact rfl
  | null => cases hv
  | _ =>
    cases hv
    cases ht

theorem safe_wholeInteger (name : String) (x : Number) :
    Safe (fun v => v.conforms .integer = true) (wholeInteger name x) := by
  unfold wholeInteger
  split
  · split
    · exact rfl
    · trivial
  · trivial

def OptionalInteger (v : Option Value) : Prop := ∀ w, v = some w → ∃ i, w = .integer i

theorem safe_optionalInteger {v : Option Value} (h : OptionalInteger v) (default : Int) :
    Safe (fun _ => True) (optionalInteger v default) := by
  cases v with
  | none => trivial
  | some w =>
    obtain ⟨i, rfl⟩ := h w rfl
    trivial

theorem safe_substring {s : String} {start length : Option Value} (h1 : OptionalInteger start)
    (h2 : OptionalInteger length) :
    Safe (fun v => v.conforms .string = true) (evalSubstring (.string s) start length) := by
  unfold evalSubstring
  refine Safe.bind (P := fun _ => True) trivial fun s _ => ?_
  refine (safe_optionalInteger h1 1).bind fun first _ => ?_
  split
  · trivial
  · cases length with
    | none => exact rfl
    | some w =>
      obtain ⟨i, rfl⟩ := h2 w rfl
      change Safe _ (if i.toInt < 0 then _ else _)
      split
      · trivial
      · exact rfl

theorem safe_replace {s pattern : String} {replacement : Option Value}
    (h : ∀ w, replacement = some w → ∃ r, w = .string r) :
    Safe (fun v => v.conforms .string = true)
      (evalReplace (.string s) (.string pattern) replacement) := by
  cases replacement with
  | none => exact rfl
  | some w =>
    obtain ⟨r, rfl⟩ := h w rfl
    exact rfl

theorem safe_find {s pattern : String} {start occurrence : Option Value}
    (h1 : OptionalInteger start) (h2 : OptionalInteger occurrence) :
    Safe (fun v => v.conforms .integer = true)
      (evalFind (.string s) (.string pattern) start occurrence) := by
  unfold evalFind
  refine Safe.bind (P := fun _ => True) trivial fun s _ => ?_
  refine Safe.bind (P := fun _ => True) trivial fun pattern _ => ?_
  refine (safe_optionalInteger h1 1).bind fun first _ => ?_
  refine (safe_optionalInteger h2 1).bind fun n _ => ?_
  split
  · trivial
  · exact rfl

theorem safe_matching {reader : PatternReader} {pattern : Option (String → Bool)}
    {s source : String} :
    Safe (fun v => v.conforms .boolean = true)
      (evalMatching reader pattern (.string s) (.string source)) := by
  cases pattern with
  | some p => exact rfl
  | none =>
    change Safe _ (compilePattern reader source >>= fun p => _)
    unfold compilePattern
    cases reader.whole? source with
    | some p => exact rfl
    | none => trivial

theorem safe_round {d : Number.Direction} {v : Value} {x : Number} {digits : Option Value}
    (hx : v.number? = some x) (h : OptionalInteger digits) :
    Safe (fun v => v.conforms .number = true) (evalRound d v digits) := by
  unfold evalRound
  have hscale : Safe (fun _ => True) (decimalScale digits) := by
    cases digits with
    | none => trivial
    | some w =>
      obtain ⟨i, rfl⟩ := h w rfl
      trivial
  refine hscale.bind fun scale _ => ?_
  rw [Value.safe_expectNumber hx]
  exact rfl

theorem safe_positive (name : String) (x : Number) :
    Safe (fun _ => True) (expectPositive name x) := by
  unfold expectPositive
  split <;> trivial

theorem safe_log {v w : Value} {x y : Number} (hx : v.number? = some x) (hy : w.number? = some y) :
    Safe (fun v => v.conforms .number = true) (evalLog v w) := by
  unfold evalLog
  rw [Value.safe_expectNumber hx]
  refine (safe_positive "log" x).bind fun x _ => ?_
  rw [Value.safe_expectNumber hy]
  refine (safe_positive "log" y).bind fun y _ => ?_
  split
  · trivial
  · exact rfl

theorem safe_sqrt {v : Value} {x : Number} (hx : v.number? = some x) :
    Safe (fun v => v.conforms .number = true) (evalSqrt v) := by
  unfold evalSqrt
  rw [Value.safe_expectNumber hx]
  change Safe _ (if x.below 0.0 then _ else _)
  split
  · trivial
  · exact rfl

theorem convert_type {v w : Value} {t : ScalarType} (h : v.convert? t = some w) :
    w.type? = some t := by
  unfold Value.convert? at h
  split at h
  · cases h
    rfl
  · cases h
    rfl
  · obtain ⟨i, _, rfl⟩ := Option.map_eq_some_iff.1 h
    rfl
  · cases h
    rfl
  · cases h
    rfl
  · cases h
    rfl
  · exact Value.type_of_parse? h
  · cases h
    rfl
  · cases h

theorem safe_cast (v : Value) (t : ScalarType) :
    Safe (fun v => v.conforms t = true) (v.cast t) := by
  unfold Value.cast
  split
  · rename_i h
    rcases Bool.or_eq_true_iff.1 h with h | h
    · cases v <;> cases h
      rfl
    · exact Value.conforms_iff.2 (.inr (by simpa using h))
  · cases h : v.convert? t with
    | some w => exact Value.conforms_iff.2 (.inr (convert_type h))
    | none => trivial

theorem numericOrInteger_eq {operator : String} {t : Option ScalarType} (hn : t ≠ none)
    (h : Typing.expectNumeric operator t = .ok ()) :
    t = some (Typing.numericOrInteger t) ∧ (Typing.numericOrInteger t).isNumeric = true := by
  rcases Typing.expectNumeric_ok h with rfl | ⟨u, rfl, hu⟩
  · exact absurd rfl hn
  · exact ⟨rfl, hu⟩

theorem unary_sound {op : UnaryOp} {t : Option ScalarType} {o : Operation}
    (h : unary op t = .ok o) : o.Sound [t] := by
  cases op with
  | plus =>
    obtain ⟨_, ht, h⟩ := ok_of_bind h
    cases eq_of_pure_ok h
    refine sound_of_strict rfl fun today args ha hn => ?_
    obtain ⟨v, rfl, hv⟩ := one_arg ha
    obtain ⟨he, _⟩ := numericOrInteger_eq (fun hx => hn (by simp [hx])) ht
    exact Value.conforms_iff.2 (.inr (hv.trans he))
  | minus =>
    obtain ⟨_, ht, h⟩ := ok_of_bind h
    cases eq_of_pure_ok h
    refine sound_of_strict rfl fun today args ha hn => ?_
    obtain ⟨v, rfl, hv⟩ := one_arg ha
    obtain ⟨he, hu⟩ := numericOrInteger_eq (fun hx => hn (by simp [hx])) ht
    exact safe_minus (hv.trans he) hu
  | not =>
    obtain ⟨_, ht, h⟩ := ok_of_bind h
    cases eq_of_pure_ok h
    refine sound_of_strict rfl fun today args ha hn => ?_
    obtain ⟨v, rfl, hv⟩ := one_arg ha
    rcases Typing.expect_ok ht with rfl | rfl
    · exact absurd (List.mem_singleton.2 rfl) hn
    · obtain ⟨b, rfl⟩ := Value.boolean_of_type hv
      exact rfl

theorem logic_conforms (c : Connective) (v w : Value) :
    (evalLogic c v w).conforms .boolean = true := by
  unfold evalLogic
  split <;> rfl

theorem binary_sound {op : BinaryOp} {l r : Option ScalarType} {o : Operation}
    (h : binary op l r = .ok o) : o.Sound [l, r] := by
  have hsome : ∀ {a b : Option ScalarType}, none ∉ [a, b] → ∃ t u, a = some t ∧ b = some u := by
    intro a b hn
    cases a with
    | none => exact absurd (List.mem_cons_self ..) hn
    | some t =>
      cases b with
      | none => exact absurd (List.mem_cons_of_mem _ (List.mem_cons_self ..)) hn
      | some u => exact ⟨t, u, rfl, rfl⟩
  cases op with
  | arithmetic a =>
    obtain ⟨t, ht, h⟩ := ok_of_bind h
    cases eq_of_pure_ok h
    refine sound_of_strict rfl fun today args ha hn => ?_
    obtain ⟨v, w, rfl, hv, hw⟩ := two_args ha
    obtain ⟨t, u, rfl, rfl⟩ := hsome hn
    exact safe_arithmetic ht hv hw
  | divide =>
    obtain ⟨t, ht, h⟩ := ok_of_bind h
    cases eq_of_pure_ok h
    refine sound_of_strict rfl fun today args ha hn => ?_
    obtain ⟨v, w, rfl, hv, hw⟩ := two_args ha
    obtain ⟨t, u, rfl, rfl⟩ := hsome hn
    obtain ⟨n, hn, _⟩ := ok_of_bind ht
    obtain ⟨htn, hun, _⟩ := Typing.numeric_ok hn
    obtain ⟨x, hx⟩ := Value.number_of_type hv htn
    obtain ⟨y, hy⟩ := Value.number_of_type hw hun
    exact safe_divide hx hy
  | concat =>
    obtain ⟨_, _, h⟩ := ok_of_bind h
    obtain ⟨_, _, h⟩ := ok_of_bind h
    cases eq_of_pure_ok h
    exact sound_of_strict rfl fun _ _ _ _ => rfl
  | compare c =>
    obtain ⟨_, _, h⟩ := ok_of_bind h
    cases eq_of_pure_ok h
    exact sound_of_strict rfl fun _ _ _ _ => rfl
  | logic c =>
    obtain ⟨_, _, h⟩ := ok_of_bind h
    obtain ⟨_, _, h⟩ := ok_of_bind h
    cases eq_of_pure_ok h
    exact fun today args _ => logic_conforms c _ _

theorem memberOf_sound {t : Option ScalarType} {set : List Value} {negated : Bool} {o : Operation}
    (h : memberOf t set negated = .ok o) : o.Sound [t] := by
  obtain ⟨_, _, h⟩ := ok_of_bind h
  cases eq_of_pure_ok h
  exact sound_of_strict rfl fun _ _ _ _ => rfl

theorem cast_sound (target : ScalarType) (types : List (Option ScalarType)) :
    (cast target).Sound types :=
  fun _ _ _ => safe_cast _ _

def TextArgs (n : Nat) (args : List Value) : Prop :=
  (∀ (i : Nat) (v : Value), args[i]? = some v → i < n → ∃ s, v = .string s) ∧
    ∀ (i : Nat) (v : Value), args[i]? = some v → n ≤ i → ∃ k, v = .integer k

theorem type_mem {args : List Value} {i : Nat} {v : Value} (h : args[i]? = some v) :
    (args.map Value.type?)[i]? = some v.type? := by
  rw [List.getElem?_map, h]
  rfl

theorem type_ne_none {args : List Value} (hn : none ∉ args.map Value.type?) {i : Nat} {v : Value}
    (h : args[i]? = some v) : v.type? ≠ none :=
  fun hv => hn (List.mem_map.2 ⟨v, List.mem_of_getElem? h, hv⟩)

theorem textArgs {operator : String} {n : Nat} {args : List Value}
    (hn : none ∉ args.map Value.type?)
    (hs : Typing.expectAll operator .string ((args.map Value.type?).take n) = .ok ())
    (hi : Typing.expectAll operator .integer ((args.map Value.type?).drop n) = .ok ()) :
    TextArgs n args := by
  constructor
  · intro i v hv hlt
    have hm : v.type? ∈ (args.map Value.type?).take n := by
      refine List.mem_of_getElem? (i := i) ?_
      rw [List.getElem?_take_of_lt hlt, type_mem hv]
    rcases Typing.expectAll_ok hs _ hm with ht | ht
    · exact absurd ht (type_ne_none hn hv)
    · exact Value.string_of_type ht
  · intro i v hv hle
    have hm : v.type? ∈ (args.map Value.type?).drop n := by
      refine List.mem_of_getElem? (i := i - n) ?_
      rw [List.getElem?_drop, Nat.add_sub_cancel' hle, type_mem hv]
    rcases Typing.expectAll_ok hi _ hm with ht | ht
    · exact absurd ht (type_ne_none hn hv)
    · exact Value.integer_of_type ht

theorem getElem?_getD {args : List Value} {i : Nat} (h : i < args.length) :
    args[i]? = some (args.getD i .null) := by
  rw [List.getD_eq_getElem?_getD, List.getElem?_eq_getElem h]
  rfl

theorem TextArgs.string {n : Nat} {args : List Value} (h : TextArgs n args) {i : Nat}
    (hi : i < args.length) (hn : i < n) : ∃ s, args.getD i .null = .string s :=
  h.1 i _ (getElem?_getD hi) hn

theorem TextArgs.optionalInteger {n : Nat} {args : List Value} (h : TextArgs n args) {i : Nat}
    (hi : n ≤ i) : OptionalInteger args[i]? :=
  fun w hw => h.2 i w hw hi

theorem textOperation_sound {f : ScalarFunction} {n : Nat} {types : List (Option ScalarType)}
    {op o : Operation} (h : f.textOperation n types op = .ok o) (hs : op.isStrict = true)
    (hc : ∀ today args, args.length = types.length → TextArgs n args →
      Safe (fun v => v.conforms op.result = true) (op.compute today args)) : o.Sound types := by
  obtain ⟨_, h1, h⟩ := ok_of_bind h
  obtain ⟨_, h2, h⟩ := ok_of_bind h
  cases eq_of_pure_ok h
  refine sound_of_strict hs fun today args ha hn => hc today args ?_ ?_
  · rw [← ha, List.length_map]
  · subst ha
    exact textArgs hn h1 h2

def NumericArgs (args : List Value) : Prop :=
  ∀ (i : Nat) (v : Value), args[i]? = some v → ∃ t, v.type? = some t ∧ t.isNumeric = true

theorem NumericArgs.number {args : List Value} (h : NumericArgs args) {i : Nat}
    (hi : i < args.length) : ∃ x, (args.getD i .null).number? = some x := by
  obtain ⟨t, ht, hn⟩ := h i _ (getElem?_getD hi)
  exact Value.number_of_type ht hn

theorem numericOperation_sound {f : ScalarFunction} {types : List (Option ScalarType)}
    {op o : Operation} (h : f.numericOperation types op = .ok o) (hs : op.isStrict = true)
    (hc : ∀ today args, args.map Value.type? = types → NumericArgs args →
      Safe (fun v => v.conforms op.result = true) (op.compute today args)) : o.Sound types := by
  obtain ⟨_, h1, h⟩ := ok_of_bind h
  cases eq_of_pure_ok h
  refine sound_of_strict hs fun today args ha hn => hc today args ha fun i v hv => ?_
  subst ha
  have hm := List.mem_of_getElem? (type_mem hv)
  rcases Typing.expectAllNumeric_ok h1 _ hm with ht | ht
  · exact absurd ht (type_ne_none hn hv)
  · exact ht

theorem roundingOperation_sound {f : ScalarFunction} {types : List (Option ScalarType)}
    {op o : Operation} (h : f.roundingOperation types op = .ok o) (hs : op.isStrict = true)
    (hl : 1 ≤ types.length)
    (hc : ∀ today args, (∃ x, (args.getD 0 .null).number? = some x) → OptionalInteger args[1]? →
      Safe (fun v => v.conforms op.result = true) (op.compute today args)) : o.Sound types := by
  obtain ⟨_, h1, h⟩ := ok_of_bind h
  obtain ⟨_, h2, h⟩ := ok_of_bind h
  cases eq_of_pure_ok h
  refine sound_of_strict hs fun today args ha hn => hc today args ?_ fun w hw => ?_
  · subst ha
    rw [List.length_map] at hl
    have hv : args[0]? = some (args.getD 0 .null) := getElem?_getD hl
    have hm : (args.getD 0 .null).type? ∈ (args.map Value.type?).take 1 := by
      refine List.mem_of_getElem? (i := 0) ?_
      rw [List.getElem?_take_of_lt Nat.one_pos, type_mem hv]
    rcases Typing.expectAllNumeric_ok h1 _ hm with ht | ⟨t, ht, hnum⟩
    · exact absurd ht (type_ne_none hn hv)
    · exact Value.number_of_type ht hnum
  · subst ha
    have hm : w.type? ∈ (args.map Value.type?).drop 1 := by
      refine List.mem_of_getElem? (i := 0) ?_
      rw [List.getElem?_drop, type_mem hw]
    rcases Typing.expectAll_ok h2 _ hm with ht | ht
    · exact absurd ht (type_ne_none hn hw)
    · exact Value.integer_of_type ht

theorem safe_expectString {v : Value} {s : String} (h : v = .string s) {t : ScalarType}
    {f : String → Value} (hf : ∀ s, (f s).conforms t = true) :
    Safe (fun v => v.conforms t = true) (v.expectString.map f) := by
  rw [h]
  exact hf s

/-- Where no integer stands beside a number, the value that replaces a null has the type of both. -/
theorem orElse_sound {operator : String} {l r t : Option ScalarType}
    (h : Typing.unify operator [l, r] = .ok t)
    (hm : ¬ (some .integer ∈ [l, r] ∧ some .number ∈ [l, r])) :
    (orElse (t.getD .string)).Sound [l, r] := by
  have hc := Typing.unify_pair h
  intro today args ha
  cases ha with
  | cons hv ha =>
    cases ha with
    | cons hw ha =>
      cases ha
      rename_i v w
      change (if v.isNull then w else v).conforms (t.getD .string) = true
      rcases Typing.common_ok hc with ⟨rfl, rfl⟩ | ⟨rfl, rfl⟩ | ⟨rfl, rfl⟩ |
        ⟨a, b, rfl, rfl, hna, hnb, hab, _⟩
      · cases hv
        exact hw.getD .string
      · cases hw
        split
        · exact Value.conforms_null _
        · exact hv.getD .string
      · split
        · exact hw.getD .string
        · exact hv.getD .string
      · -- Two different numeric types are an integer and a number.
        refine absurd ?_ hm
        cases a <;> cases hna <;> cases b <;> cases hnb <;> simp at hab ⊢

theorem typedOperation_sound {f : ScalarFunction} {reader : PatternReader}
    {types : List (Option ScalarType)} {o : Operation} (h : f.typedOperation reader types = .ok o)
    (hl : f.arity.1 ≤ types.length ∧ types.length ≤ f.arity.2)
    (hm : f = .nvl → ¬ (some .integer ∈ types ∧ some .number ∈ types)) : o.Sound types := by
  obtain ⟨hlo, hhi⟩ := hl
  cases f with
  | length | upper | lower | trim | ltrim | rtrim =>
    refine textOperation_sound h rfl fun today args ha ht => ?_
    obtain ⟨s, hs⟩ := ht.string (i := 0) (by rw [ha]; exact hlo) Nat.one_pos
    exact safe_expectString hs fun _ => rfl
  | substr =>
    refine textOperation_sound h rfl fun today args ha ht => ?_
    obtain ⟨s, hs⟩ := ht.string (i := 0) (by rw [ha]; exact hlo) Nat.one_pos
    change Safe _ (evalSubstring (args.getD 0 .null) args[1]? args[2]?)
    rw [hs]
    exact safe_substring (ht.optionalInteger (by omega)) (ht.optionalInteger (by omega))
  | replace =>
    refine textOperation_sound h rfl fun today args ha ht => ?_
    have hlen : 2 ≤ args.length := by rw [ha]; exact hlo
    obtain ⟨s, hs⟩ := ht.string (i := 0) (by omega) (by omega)
    obtain ⟨p, hp⟩ := ht.string (i := 1) (by omega) (by omega)
    change Safe _ (evalReplace (args.getD 0 .null) (args.getD 1 .null) args[2]?)
    rw [hs, hp]
    exact safe_replace fun w hw => ht.1 2 w hw (by omega)
  | instr =>
    refine textOperation_sound h rfl fun today args ha ht => ?_
    have hlen : 2 ≤ args.length := by rw [ha]; exact hlo
    obtain ⟨s, hs⟩ := ht.string (i := 0) (by omega) (by omega)
    obtain ⟨p, hp⟩ := ht.string (i := 1) (by omega) (by omega)
    change Safe _ (evalFind (args.getD 0 .null) (args.getD 1 .null) args[2]? args[3]?)
    rw [hs, hp]
    exact safe_find (ht.optionalInteger (by omega)) (ht.optionalInteger (by omega))
  | matchCharacters =>
    refine textOperation_sound h rfl fun today args ha ht => ?_
    have hlen : 2 ≤ args.length := by rw [ha]; exact hlo
    obtain ⟨s, hs⟩ := ht.string (i := 0) (by omega) (by omega)
    obtain ⟨p, hp⟩ := ht.string (i := 1) (by omega) (by omega)
    change Safe _ (evalMatching reader none (args.getD 0 .null) (args.getD 1 .null))
    rw [hs, hp]
    exact safe_matching
  | abs =>
    refine numericOperation_sound h rfl fun today args ha hn => ?_
    have hlen : 1 ≤ args.length := by rw [← args.length_map, ha]; exact hlo
    obtain ⟨t, ht, hnum⟩ := hn 0 _ (getElem?_getD hlen)
    have hf : types.getD 0 none = some t := by
      rw [← ha, List.getD_eq_getElem?_getD, type_mem (getElem?_getD hlen), ht]
      rfl
    change Safe (fun v => v.conforms (Typing.numericOrInteger (types.getD 0 none)) = true)
      (evalAbs (args.getD 0 .null))
    rw [hf]
    exact safe_abs ht hnum
  | ceil | floor =>
    refine numericOperation_sound h rfl fun today args ha hn => ?_
    have hlen : 1 ≤ args.length := by rw [← args.length_map, ha]; exact hlo
    obtain ⟨x, hx⟩ := hn.number hlen
    change Safe _ ((args.getD 0 .null).expectNumber.bind _)
    rw [Value.safe_expectNumber hx]
    exact safe_wholeInteger _ _
  | round | trunc =>
    exact roundingOperation_sound h rfl hlo fun today args ⟨x, hx⟩ hd => safe_round hx hd
  | sqrt =>
    refine numericOperation_sound h rfl fun today args ha hn => ?_
    have hlen : 1 ≤ args.length := by rw [← args.length_map, ha]; exact hlo
    obtain ⟨x, hx⟩ := hn.number hlen
    exact safe_sqrt hx
  | exp =>
    refine numericOperation_sound h rfl fun today args ha hn => ?_
    have hlen : 1 ≤ args.length := by rw [← args.length_map, ha]; exact hlo
    obtain ⟨x, hx⟩ := hn.number hlen
    change Safe _ ((args.getD 0 .null).expectNumber.map _)
    rw [Value.safe_expectNumber hx]
    exact rfl
  | ln =>
    refine numericOperation_sound h rfl fun today args ha hn => ?_
    have hlen : 1 ≤ args.length := by rw [← args.length_map, ha]; exact hlo
    obtain ⟨x, hx⟩ := hn.number hlen
    change Safe _ ((args.getD 0 .null).expectNumber >>= _)
    rw [Value.safe_expectNumber hx]
    exact (safe_positive "ln" x).bind fun _ _ => rfl
  | log =>
    refine numericOperation_sound h rfl fun today args ha hn => ?_
    have hlen : 2 ≤ args.length := by rw [← args.length_map, ha]; exact hlo
    obtain ⟨x, hx⟩ := hn.number (i := 0) (by omega)
    obtain ⟨y, hy⟩ := hn.number (i := 1) (by omega)
    exact safe_log hx hy
  | power =>
    refine numericOperation_sound h rfl fun today args ha hn => ?_
    have hlen : 2 ≤ args.length := by rw [← args.length_map, ha]; exact hlo
    obtain ⟨x, hx⟩ := hn.number (i := 0) (by omega)
    obtain ⟨y, hy⟩ := hn.number (i := 1) (by omega)
    change Safe _ ((args.getD 0 .null).expectNumber >>= _)
    rw [Value.safe_expectNumber hx]
    change Safe _ ((args.getD 1 .null).expectNumber >>= _)
    rw [Value.safe_expectNumber hy]
    exact rfl
  | mod =>
    obtain ⟨t, ht, h⟩ := ok_of_bind h
    cases eq_of_pure_ok h
    obtain ⟨l, r, rfl⟩ := List.length_eq_two.1 (Nat.le_antisymm hhi hlo)
    refine sound_of_strict rfl fun today args ha hn => ?_
    obtain ⟨v, w, rfl, hv, hw⟩ := two_args ha
    cases l with
    | none => exact absurd (List.mem_cons_self ..) hn
    | some a =>
      cases r with
      | none => exact absurd (List.mem_cons_of_mem _ (List.mem_cons_self ..)) hn
      | some b => exact safe_modulo ht hv hw
  | isNull =>
    cases h
    exact fun _ _ _ => rfl
  | nvl =>
    obtain ⟨t, ht, h⟩ := ok_of_bind h
    cases eq_of_pure_ok h
    obtain ⟨l, r, rfl⟩ := List.length_eq_two.1 (Nat.le_antisymm hhi hlo)
    exact orElse_sound ht (hm rfl)
  | between =>
    obtain ⟨_, _, h⟩ := ok_of_bind h
    obtain ⟨_, _, h⟩ := ok_of_bind h
    cases eq_of_pure_ok h
    exact sound_of_strict rfl fun _ _ _ _ => rfl
  | currentDate =>
    cases h
    exact fun _ _ _ => rfl
  | levenshtein =>
    refine textOperation_sound h rfl fun today args ha ht => ?_
    have hlen : 2 ≤ args.length := by rw [ha]; exact hlo
    obtain ⟨s, hs⟩ := ht.string (i := 0) (by omega) (by omega)
    obtain ⟨p, hp⟩ := ht.string (i := 1) (by omega) (by omega)
    change Safe _ ((args.getD 0 .null).expectString >>= fun s =>
      (args.getD 1 .null).expectString >>= fun t => _)
    rw [hs, hp]
    exact rfl

/-- Whether the pattern is read in advance or from the operand, the same operands are admitted. -/
theorem matching_sound {reader : PatternReader} {types : List (Option ScalarType)}
    (h : (matching reader none).Sound types) (pattern : Option (String → Bool)) :
    (matching reader pattern).Sound types := by
  cases pattern with
  | none => exact h
  | some p =>
    intro today args ha
    have hnone := h today args ha
    unfold call at hnone ⊢
    split
    · exact Value.conforms_null _
    · rename_i hn
      rw [if_neg (by exact hn)] at hnone
      change Safe _ (evalMatching reader none (args.getD 0 .null) (args.getD 1 .null)) at hnone
      change Safe _ (evalMatching reader (some p) (args.getD 0 .null) (args.getD 1 .null))
      unfold evalMatching at hnone ⊢
      cases hs : (args.getD 0 .null).expectString with
      | ok s => exact rfl
      | error e =>
        rw [hs] at hnone
        exact hnone

theorem withPattern_sound {op o : Operation} {types : List (Option ScalarType)}
    {constants : List (Option Value)} (h : ScalarFunction.withPattern op constants = .ok o)
    (hs : op.Sound types) : o.Sound types := by
  unfold ScalarFunction.withPattern at h
  split at h
  · unfold matchingOf at h
    split at h
    · cases h
      exact hs
    · obtain ⟨p, _, h⟩ := ok_of_bind h
      cases eq_of_pure_ok h
      exact matching_sound hs _
  · cases h
    exact hs

theorem operation_sound {f : ScalarFunction} {reader : PatternReader}
    {types : List (Option ScalarType)} {constants : List (Option Value)} {o : Operation}
    (h : f.operation reader types constants = .ok o)
    (hm : f = .nvl → ¬ (some .integer ∈ types ∧ some .number ∈ types)) : o.Sound types := by
  obtain ⟨_, hl, h⟩ := ok_of_bind h
  obtain ⟨op, ho, h⟩ := ok_of_bind h
  have ha := Compile.typing_ok hl
  unfold Typing.arity at ha
  split at ha
  · rename_i hbounds
    exact withPattern_sound (Compile.evaluation_ok h)
      (typedOperation_sound (Compile.typing_ok ho) hbounds hm)
  · cases ha

end Tabular.Operation
