import Mathlib.Algebra.Group.Nat.Defs
import Mathlib.Data.List.Basic
import Tabular.Value.Cast

set_option autoImplicit false

namespace Tabular

namespace Text

theorem not_isBlank_of_isDigit {c : Char} (h : c.isDigit = true) : isBlank c = false := by
  have hc : 48 ≤ c.toNat ∧ c.toNat ≤ 57 := by
    simp only [Char.isDigit, Bool.and_eq_true, decide_eq_true_eq] at h
    exact h
  simp only [isBlank, within, blankRanges, List.any_cons, List.any_nil, Bool.or_false,
    Bool.or_eq_false_iff, Bool.and_eq_false_iff, decide_eq_false_iff_not]
  omega

theorem dropStart_cons {c : Char} {cs : List Char} (h : isBlank c = false) :
    dropStart (c :: cs) = c :: cs :=
  List.dropWhile_cons_of_neg (by rw [h]; exact Bool.false_ne_true)

theorem trim_of_not_blank {s : String} (h : ∀ c ∈ s.toList, isBlank c = false) : trim s = s := by
  have hdrop {cs : List Char} (h : ∀ c ∈ cs, isBlank c = false) : cs.dropWhile isBlank = cs := by
    cases cs with
    | nil => rfl
    | cons c cs => exact dropStart_cons (h c (List.mem_cons_self ..))
  rw [trim, dropStart, dropEnd, hdrop h, hdrop fun c hc => h c (List.mem_reverse.1 hc),
    List.reverse_reverse, String.ofList_toList]

end Text

namespace Date

theorem isDigit_of_mem_padded {w n : Nat} {c : Char} (h : c ∈ padded w n) : c.isDigit = true := by
  rcases List.mem_append.1 h with h | h
  · rw [(List.mem_replicate.1 h).2]
    rfl
  · exact Nat.isDigit_of_mem_toDigits (by decide) (by decide) h

theorem ofDigitChars_padded (w n : Nat) : Nat.ofDigitChars 10 (padded w n) 0 = n := by
  unfold padded
  dsimp only
  rw [Nat.ofDigitChars_append, Nat.ofDigitChars_replicate_zero, Nat.mul_zero]
  exact Nat.ofDigitChars_ten_toDigits

theorem exists_padded (w n : Nat) : ∃ c cs, padded w n = c :: cs ∧ c.isDigit = true := by
  cases h : padded w n with
  | nil =>
    have hdigits := (List.append_eq_nil_iff.1 h).2
    exact absurd hdigits (Nat.toDigits_ne_nil)
  | cons c cs => exact ⟨c, cs, rfl, isDigit_of_mem_padded (h ▸ List.mem_cons_self ..)⟩

theorem natural?_padded (w n : Nat) : Decimal.natural? (padded w n) = some n := by
  have hall : (padded w n).all Char.isDigit = true :=
    List.all_eq_true.2 fun c hc => isDigit_of_mem_padded hc
  obtain ⟨c, cs, h, _⟩ := exists_padded w n
  have hvalue := ofDigitChars_padded w n
  rw [h] at hall hvalue ⊢
  rw [Decimal.natural?, if_pos hall]
  · exact congrArg some hvalue
  · exact nofun

theorem takeWhile_padded (w n : Nat) {rest : List Char} (h : ∀ c ∈ rest.head?, c.isDigit = false) :
    (padded w n ++ rest).takeWhile Char.isDigit = padded w n := by
  rw [List.takeWhile_append_of_pos fun c hc => isDigit_of_mem_padded hc]
  cases rest with
  | nil => rw [List.takeWhile_nil, List.append_nil]
  | cons c cs =>
    rw [List.takeWhile_cons_of_neg (by rw [h c rfl]; exact Bool.false_ne_true), List.append_nil]

theorem takeNumber_padded {w n most : Nat} (hl : (padded w n).length ≤ most) {rest : List Char}
    (h : ∀ c ∈ rest.head?, c.isDigit = false) :
    takeNumber most (padded w n ++ rest) = some (n, rest) := by
  have hstart : Text.dropStart (padded w n ++ rest) = padded w n ++ rest := by
    obtain ⟨c, cs, hc, hd⟩ := exists_padded w n
    rw [hc, List.cons_append]
    exact Text.dropStart_cons (Text.not_isBlank_of_isDigit hd)
  unfold takeNumber
  rw [hstart]
  dsimp only
  rw [takeWhile_padded w n h, List.take_of_length_le hl, natural?_padded, Option.map_some,
    List.drop_left]

theorem signed_padded (w n : Nat) {rest : List Char} (h : ∀ c ∈ rest.head?, c.isDigit = false) :
    takeYear.signed (padded w n ++ rest) = some (n, rest) := by
  unfold takeYear.signed
  dsimp only
  rw [takeWhile_padded w n h, natural?_padded, Option.map_some, List.drop_left]

theorem length_padded {w n : Nat} (hw : 0 < w) (h : n < 10 ^ w) : (padded w n).length = w := by
  have hl : (Nat.toDigits 10 n).length ≤ w :=
    (Nat.length_toDigits_le_iff (by decide) hw).2 h
  unfold padded
  rw [List.length_append, List.length_replicate]
  omega

theorem takeYear_yearText (y : Int) (rest : List Char) :
    takeYear (yearText y ++ '-' :: rest) = some (y, '-' :: rest) := by
  have hrest : ∀ c ∈ ('-' :: rest).head?, c.isDigit = false := by
    rintro c ⟨⟩
    rfl
  have hblank : Text.isBlank '-' = false ∧ Text.isBlank '+' = false := by decide
  unfold yearText
  split
  · rw [List.cons_append, takeYear, Text.dropStart_cons hblank.1]
    change (takeYear.signed (padded 4 y.natAbs ++ '-' :: rest)).map _ = _
    rw [signed_padded 4 _ hrest]
    change some (-(y.natAbs : Int), '-' :: rest) = _
    rw [show -(y.natAbs : Int) = y by omega]
  · split
    · rw [List.cons_append, takeYear, Text.dropStart_cons hblank.2]
      change (takeYear.signed (padded 4 y.natAbs ++ '-' :: rest)).map _ = _
      rw [signed_padded 4 _ hrest]
      change some ((y.natAbs : Int), '-' :: rest) = _
      rw [show (y.natAbs : Int) = y by omega]
    · -- A year without a sign starts with a digit.
      have hl : (padded 4 y.natAbs).length = 4 := length_padded (by decide) (by omega)
      have htake := takeNumber_padded (Nat.le_of_eq hl) hrest
      obtain ⟨c, cs, hc, hd⟩ := exists_padded 4 y.natAbs
      rw [hc, List.cons_append] at htake ⊢
      rw [takeYear, Text.dropStart_cons (Text.not_isBlank_of_isDigit hd)]
      split
      · rename_i heq
        cases heq
        cases hd
      · rename_i heq
        cases heq
        cases hd
      · rw [htake]
        change some ((y.natAbs : Int), '-' :: rest) = _
        rw [show (y.natAbs : Int) = y by omega]

theorem day_lt (d : Date) : d.day < 100 := by
  have hd := d.day_le
  unfold daysIn at hd
  split at hd
  · split at hd <;> omega
  · split at hd <;> omega

theorem parse?_render (d : Date) : parse? d.render.toList = some d := by
  have hyphen : ∀ (cs : List Char), ∀ c ∈ ('-' :: cs).head?, c.isDigit = false := by
    rintro cs c ⟨⟩
    rfl
  have hm : (padded 2 d.month).length ≤ 2 := by
    have h := d.month_le
    exact Nat.le_of_eq (length_padded (by decide) (by omega))
  have hd : (padded 2 d.day).length ≤ 2 := Nat.le_of_eq (length_padded (by decide) d.day_lt)
  have hday : takeNumber 2 (padded 2 d.day ++ []) = some (d.day, []) :=
    takeNumber_padded hd nofun
  rw [List.append_nil] at hday
  rw [render, String.toList_ofList, parse?, List.append_assoc, List.cons_append,
    takeYear_yearText]
  change (takeNumber 2 (padded 2 d.month ++ '-' :: padded 2 d.day) >>= _) = _
  rw [takeNumber_padded hm (hyphen _)]
  change (takeNumber 2 (padded 2 d.day) >>= _) = _
  rw [hday]
  exact ofFields?_fields d

end Date

namespace Value

theorem integer_text (n : Int) :
    toString n = String.ofList
      (if n < 0 then '-' :: Date.padded 0 n.natAbs else Date.padded 0 n.natAbs) := by
  cases n with
  | ofNat n =>
    have hn : ¬ Int.ofNat n < 0 := Int.not_lt.2 (Int.natCast_nonneg n)
    rw [if_neg hn]
    change Nat.repr n = _
    rw [Nat.repr_eq_ofList_toDigits]
    simp [Date.padded]
  | negSucc n =>
    rw [if_pos (Int.negSucc_lt_zero n)]
    change "-" ++ Nat.repr (n + 1) = _
    rw [Nat.repr_eq_ofList_toDigits]
    exact String.toList_inj.1 (by simp [Date.padded])

theorem integer?_text (n : Int) : Decimal.integer? (toString n).toList = some n := by
  rw [integer_text, String.toList_ofList]
  split
  · change Option.map _ (Decimal.natural? (Date.padded 0 n.natAbs) >>= _) = _
    rw [Date.natural?_padded]
    change some (-(n.natAbs : Int)) = _
    rw [show -(n.natAbs : Int) = n by omega]
  · obtain ⟨c, cs, hc, hd⟩ := Date.exists_padded 0 n.natAbs
    have hsign : Decimal.splitSign (c :: cs) = (false, c :: cs) := by
      unfold Decimal.splitSign
      split
      · rename_i heq
        cases heq
        cases hd
      · rename_i heq
        cases heq
        cases hd
      · rfl
    rw [hc, Decimal.integer?, hsign]
    dsimp only
    rw [← hc, Date.natural?_padded]
    change some (n.natAbs : Int) = _
    rw [show (n.natAbs : Int) = n by omega]

theorem not_blank_integer (n : Int) : ∀ c ∈ (toString n).toList, Text.isBlank c = false := by
  rw [integer_text, String.toList_ofList]
  intro c hc
  split at hc
  · rcases List.mem_cons.1 hc with rfl | hc
    · decide
    · exact Text.not_isBlank_of_isDigit (Date.isDigit_of_mem_padded hc)
  · exact Text.not_isBlank_of_isDigit (Date.isDigit_of_mem_padded hc)

theorem not_blank_date (d : Date) : ∀ c ∈ d.render.toList, Text.isBlank c = false := by
  have hpadded (w n : Nat) : ∀ c ∈ Date.padded w n, Text.isBlank c = false :=
    fun c hc => Text.not_isBlank_of_isDigit (Date.isDigit_of_mem_padded hc)
  have hblank : Text.isBlank '-' = false ∧ Text.isBlank '+' = false := by decide
  rw [Date.render, String.toList_ofList]
  have hyear : ∀ c ∈ Date.yearText d.year, Text.isBlank c = false := by
    unfold Date.yearText
    split
    · exact List.forall_mem_cons.2 ⟨hblank.1, hpadded _ _⟩
    · split
      · exact List.forall_mem_cons.2 ⟨hblank.2, hpadded _ _⟩
      · exact hpadded _ _
  intro c hc
  simp only [List.mem_append, List.mem_cons] at hc
  rcases hc with (hc | rfl | hc) | rfl | hc
  · exact hyear c hc
  · exact hblank.1
  · exact hpadded _ _ c hc
  · exact hblank.1
  · exact hpadded _ _ c hc

theorem parse?_render {v : Value} {t : ScalarType} (ht : t ≠ .number) (hv : v.type? = some t) :
    parse? t v.render = some v := by
  cases v with
  | null => cases hv
  | number x =>
    cases hv
    exact absurd rfl ht
  | string s =>
    cases hv
    rfl
  | integer i =>
    cases hv
    unfold parse?
    dsimp only
    rw [render, Text.trim_of_not_blank (not_blank_integer _), integer?_text, Option.bind_some,
      Integer.check_toInt]
    rfl
  | boolean b =>
    cases hv
    cases b <;> decide
  | date d =>
    cases hv
    unfold parse?
    dsimp only
    rw [render, Text.trim_of_not_blank (not_blank_date d), Date.parse?_render]
    rfl
  | duration p =>
    cases hv
    cases p <;> decide

theorem type_of_parse? {t : ScalarType} {text : String} {v : Value} (h : parse? t text = some v) :
    v.type? = some t := by
  unfold parse? at h
  cases t with
  | string =>
    cases h
    rfl
  | boolean =>
    dsimp only at h
    split at h
    · cases h
      rfl
    · cases h
      rfl
    · cases h
  | _ =>
    obtain ⟨x, _, rfl⟩ := Option.map_eq_some_iff.1 h
    rfl

/-- Within a type other than that of numbers, the text of a value tells which value it is. -/
theorem eq_of_render {v w : Value} {t : ScalarType} (ht : t ≠ .number) (hv : v.type? = some t)
    (hw : w.type? = some t) (h : v.render = w.render) : v = w := by
  rw [← Option.some_inj, ← parse?_render ht hv, h, parse?_render ht hw]

theorem cast_string {v : Value} (hn : v.isNull = false) :
    v.cast .string = .ok (.string v.render) := by
  cases v <;> first | rfl | cases hn

theorem cast_of_string (text : String) (t : ScalarType) :
    (Value.string text).cast t =
      match parse? t text with
      | some v => .ok v
      | none => .error (.cast text t) := by
  have hread : (Value.string text).convert? t = parse? t text := by
    cases t <;> simp only [convert?]
  unfold cast
  split
  · rename_i hsame
    have ht : some ScalarType.string = some t := beq_iff_eq.1 hsame
    cases ht
    rfl
  · rw [hread]
    rfl

/-- A value other than a number is cast to text and back to its type without loss. -/
theorem cast_through_string {v : Value} {t : ScalarType} (ht : t ≠ .number)
    (hv : v.type? = some t) :
    ∃ text, v.cast .string = .ok (.string text) ∧ (Value.string text).cast t = .ok v := by
  have hn : v.isNull = false := by
    cases v <;> first | rfl | cases hv
  refine ⟨v.render, cast_string hn, ?_⟩
  rw [cast_of_string, parse?_render ht hv]

theorem cast_through_string_limits :
    (∃ text, (integer Int64.minValue).cast .string = .ok (.string text) ∧
      (Value.string text).cast .integer = .ok (integer Int64.minValue)) ∧
    ∃ d, Date.ofFields? (-4) 2 29 = some d ∧ ∃ text, (date d).cast .string = .ok (.string text) ∧
      (Value.string text).cast .date = .ok (date d) :=
  ⟨cast_through_string nofun rfl, _, rfl, cast_through_string nofun rfl⟩

end Value
end Tabular
