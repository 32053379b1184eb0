import Tabular.Proofs.Checking
import Tabular.Proofs.Joining.Partners
import Tabular.Proofs.Order

set_option autoImplicit false

namespace Tabular

namespace Check

variable {c : Check} {d o o' e : Dataset} {outer : Scope} {others others' : Keyed Value}

def amount (o : Dataset) (q : Row) : Value :=
  match o.schema.soleMeasure? with
  | some m => o.schema.read q m.name
  | none => .null

/-- The rows of the imbalance dataset with the key of a row of the condition. -/
def partners (d o : Dataset) (r : Row) : List Row :=
  o.rows.filter fun q => Key.same (d.schema.identifierNames.map (o.schema.read q)) (d.rowKey r)

def found (d o : Dataset) (r : Row) : Value :=
  ((partners d o r).getLast?.map (amount o)).getD .null

/-- The rows of the condition that have a report. -/
def reported (c : Check) (d : Dataset) : List Row :=
  match conditionColumn d.schema with
  | .ok column => d.rows.filter fun r => c.mode.reports (Row.cell r column).boolean?
  | .error _ => []

/-- Whatever the imbalance dataset has for a report is the same amount. -/
def Settled (c : Check) (d o : Dataset) : Prop :=
  ∀ r ∈ c.reported d, ∀ q ∈ partners d o r, ∀ q' ∈ partners d o r, amount o q = amount o q'

instance : Decidable (c.Settled d o) :=
  inferInstanceAs (Decidable (∀ r ∈ c.reported d, ∀ q ∈ partners d o r, ∀ q' ∈ partners d o r,
    amount o q = amount o q'))

theorem imbalances_ok (h : imbalances d.schema (some o) = .ok others) (r : Row) :
    (others.find? (d.rowKey r)).getD .null = found d o r := by
  obtain ⟨m, hm, h⟩ := ok_of_bind h
  obtain ⟨column, hc, h⟩ := ok_of_bind h
  obtain ⟨ids, hids, h⟩ := ok_of_bind h
  cases eq_of_pure_ok h
  have hamount : (fun q => Row.cell q column) = amount o := by
    funext q
    rw [amount, (soleMeasure_ok hm).1]
    exact (Schema.read_of_indexOf? (Schema.position_ok.1 (liftModel_ok hc)) q).symm
  rw [found, partners, List.getLast?_filter, Keyed.find?, List.find?_map, Option.map_map, ← hamount]
  simp only [Schema.cells_positions (liftModel_ok hids), Row.key]
  rfl

theorem imbalances_of_schema (h : imbalances d.schema (some o) = .ok others)
    (hs : o'.schema = o.schema) : ∃ others', imbalances d.schema (some o') = .ok others' := by
  obtain ⟨m, hm, h⟩ := ok_of_bind h
  obtain ⟨column, hc, h⟩ := ok_of_bind h
  obtain ⟨ids, hids, h⟩ := ok_of_bind h
  unfold imbalances
  dsimp only
  rw [hs, hm]
  change ∃ others', (liftModel (o.schema.position m.name) >>= _) = .ok others'
  rw [hc, hids]
  exact ⟨_, rfl⟩

def reportWith (c : Check) (s : Schema) (column : Nat) (outer : Scope) (imbalance : Value)
    (r : Row) : Except EvalError (Option Row) :=
  if c.mode.reports (Row.cell r column).boolean? then do
    let errors ← c.errorCells (Scope.ofRow s r outer) ((Row.cell r column).boolean? == some false)
    return some (Row.key r s.identifierIndices ++ [Row.cell r column, imbalance] ++ errors)
  else .ok none

theorem reportRow_eq (c : Check) (s : Schema) (column : Nat) (others : Keyed Value) (outer : Scope)
    (r : Row) :
    c.reportRow s column others outer r = c.reportWith s column outer
      ((others.find? (Row.key r s.identifierIndices)).getD .null) r := rfl

variable {s t : Schema} {column : Nat} {type : Option ScalarType}

def AlikeBut (t : Schema) (row row' : Row) : Prop :=
  ∀ n, n ≠ Report.imbalanceName → t.read row n = t.read row' n

theorem alikeBut_report (ht : schema s type = .ok t) (r : Row) (holds x y : Value)
    (errors : List Value) :
    AlikeBut t (Row.key r s.identifierIndices ++ [holds, x] ++ errors)
      (Row.key r s.identifierIndices ++ [holds, y] ++ errors) := by
  intro n hn
  let i := s.identifiers.length + 1
  have hplace : t.indexOf? Report.imbalanceName = some i := by
    have hc := Schema.components_of_ofComponents ht
    refine Schema.indexOf?_of_getElem? (c := Report.imbalance (type.getD .number)) ?_
    rw [hc, List.append_assoc, List.getElem?_append_right (Nat.le_add_right _ 1),
      Nat.add_sub_cancel_left]
    rfl
  have hset : Row.key r s.identifierIndices ++ [holds, y] ++ errors =
      (Row.key r s.identifierIndices ++ [holds, x] ++ errors).set i y := by
    rw [List.append_assoc, List.append_assoc, List.set_append_right _ _ (by
      rw [Schema.length_key]; exact Nat.le_succ _), Schema.length_key, Nat.add_sub_cancel_left]
    rfl
  rw [hset, Schema.read, Schema.read]
  cases hi : t.indexOf? n with
  | none => rfl
  | some j =>
    have hne : i ≠ j := by
      rintro rfl
      exact hn (Schema.indexOf?_inj hi hplace)
    exact (Row.cell_set_of_ne hne y).symm

theorem reportWith_ok (ht : schema s type = .ok t) {x : Value} {r : Row} {part : Option Row}
    (h : c.reportWith s column outer x r = .ok part) (y : Value) :
    ∃ part', c.reportWith s column outer y r = .ok part' ∧
      List.Forall₂ (AlikeBut t) part.toList part'.toList ∧
      (part' = part ↔ (c.mode.reports (Row.cell r column).boolean? = true → x = y)) := by
  unfold reportWith at h ⊢
  cases hreports : c.mode.reports (Row.cell r column).boolean? with
  | false =>
    rw [hreports] at h
    cases h
    exact ⟨none, rfl, .nil, by simp⟩
  | true =>
    rw [hreports, if_pos rfl] at h
    obtain ⟨errors, herrors, h⟩ := ok_of_bind h
    cases eq_of_pure_ok h
    rw [herrors]
    exact ⟨_, rfl, .cons (alikeBut_report ht r _ x y errors) .nil, by simp [eq_comm]⟩

theorem reportRows_ok (ht : schema s type = .ok t) {rows out : List Row}
    (h : c.reportRows s column others outer rows = .ok out) (others' : Keyed Value) :
    ∃ out', c.reportRows s column others' outer rows = .ok out' ∧
      List.Forall₂ (AlikeBut t) out out' ∧
      (out' = out ↔ ∀ r ∈ rows, c.mode.reports (Row.cell r column).boolean? = true →
        (others.find? (Row.key r s.identifierIndices)).getD .null =
          (others'.find? (Row.key r s.identifierIndices)).getD .null) := by
  induction rows generalizing out with
  | nil =>
    cases h
    exact ⟨[], rfl, .nil, by simp⟩
  | cons r rest ih =>
    obtain ⟨part, hpart, h⟩ := ok_of_bind h
    obtain ⟨more, hmore, h⟩ := ok_of_bind h
    cases eq_of_pure_ok h
    rw [reportRow_eq] at hpart
    obtain ⟨part', hpart', halike, hiff⟩ := reportWith_ok ht hpart
      ((others'.find? (Row.key r s.identifierIndices)).getD .null)
    obtain ⟨more', hmore', halikes, hiffs⟩ := ih hmore
    refine ⟨part'.toList ++ more', ?_, List.rel_append halike halikes, ?_⟩
    · rw [reportRows, reportRow_eq, hpart', hmore']
      rfl
    · rw [List.forall_mem_cons, ← hiff, ← hiffs]
      constructor
      · intro heq
        obtain ⟨hhead, htail⟩ := List.append_inj heq halike.length_eq.symm
        exact ⟨by rw [← part'.head?_toList, hhead, Option.head?_toList], htail⟩
      · rintro ⟨rfl, rfl⟩
        rfl

/-- The order of the rows in the imbalance dataset shows in the imbalances only. They are the same if
    each report finds the same amount. -/
theorem evaluate_of_rearranged (h : c.evaluate outer d (some o) = .ok e) (ho : o.Rearranged o') :
    ∃ e', c.evaluate outer d (some o') = .ok e' ∧ e'.schema = e.schema ∧
      List.Forall₂ (AlikeBut e.schema) e.rows e'.rows ∧
      (e' = e ↔ ∀ r ∈ c.reported d, found d o r = found d o' r) := by
  obtain ⟨type, htype, h⟩ := ok_of_bind h
  obtain ⟨t, ht, h⟩ := ok_of_bind h
  obtain ⟨rows, hrows, h⟩ := ok_of_bind h
  cases eq_of_pure_ok h
  obtain ⟨column, hcolumn, hrows⟩ := ok_of_bind hrows
  obtain ⟨others, hothers, hrows⟩ := ok_of_bind hrows
  obtain ⟨others', hothers'⟩ := imbalances_of_schema hothers ho.schema
  obtain ⟨rows', hrows', halike, hiff⟩ := reportRows_ok (liftModel_ok ht) hrows others'
  have hreported : c.reported d =
      d.rows.filter fun r => c.mode.reports (Row.cell r column).boolean? := by
    rw [reported, hcolumn]
  refine ⟨⟨t, rows'⟩, ?_, rfl, halike, ?_⟩
  · unfold evaluate Check.rows
    rw [← imbalanceType_rearranged (.some ho), htype, hcolumn, hothers']
    change (liftModel (schema d.schema type) >>= _) = _
    rw [ht]
    change (c.reportRows d.schema column others' outer d.rows >>= _) = _
    rw [hrows']
    rfl
  · rw [Dataset.mk.injEq, hreported]
    simp only [true_and, hiff, List.mem_filter, and_imp, ← imbalances_ok hothers,
      ← imbalances_ok hothers']
    rfl

/-- A row that has the key of a report can be brought to the end. -/
theorem exists_found {r q : Row} (hq : q ∈ partners d o r) :
    ∃ o', o.Rearranged o' ∧ found d o' r = amount o q := by
  obtain ⟨hmem, hsame⟩ := List.mem_filter.1 hq
  refine ⟨⟨o.schema, o.rows.erase q ++ [q]⟩, ⟨rfl, ?_⟩, ?_⟩
  · exact (List.perm_cons_erase hmem).trans (List.perm_append_singleton q _).symm
  · have hlast : (partners d ⟨o.schema, o.rows.erase q ++ [q]⟩ r).getLast? = some q := by
      rw [partners, List.filter_append, List.filter_cons_of_pos (by exact hsame), List.filter_nil,
        List.getLast?_concat]
    rw [found, hlast]
    rfl

theorem amount_of_rearranged (ho : o.Rearranged o') (q : Row) : amount o' q = amount o q := by
  rw [amount, amount, ho.schema]

theorem partners_perm (ho : o.Rearranged o') (r : Row) :
    (partners d o r).Perm (partners d o' r) := by
  rw [partners, partners, ho.schema]
  exact ho.rows.filter _

theorem found_of_settled {r : Row} (h : ∀ q ∈ partners d o r, ∀ q' ∈ partners d o r,
    amount o q = amount o q') (ho : o.Rearranged o') : found d o r = found d o' r := by
  have hperm := partners_perm (d := d) ho r
  cases hlast : (partners d o r).getLast? with
  | none =>
    have hnil := List.getLast?_eq_none_iff.1 hlast
    rw [hnil] at hperm
    rw [found, found, hnil, List.nil_perm.1 hperm]
    rfl
  | some q =>
    cases hlast' : (partners d o' r).getLast? with
    | none =>
      rw [List.getLast?_eq_none_iff.1 hlast'] at hperm
      rw [List.perm_nil.1 hperm] at hlast
      cases hlast
    | some q' =>
      have hq := List.mem_of_getLast? hlast
      have hq' := hperm.symm.subset (List.mem_of_getLast? hlast')
      rw [found, found, hlast, hlast']
      exact (h q hq q' hq').trans (amount_of_rearranged ho q').symm

theorem settled_of_distinct (ho : o.Distinct)
    (hn : o.schema.identifierNames ⊆ d.schema.identifierNames) : c.Settled d o := by
  intro r _ q hq q' hq'
  obtain ⟨hmem, hsame⟩ := List.mem_filter.1 hq
  obtain ⟨hmem', hsame'⟩ := List.mem_filter.1 hq'
  have hunique := ho.unique hn (fun _ => rfl) id
  have hkeys := Key.same_trans hsame (by rwa [Key.same_comm] at hsame')
  have heq := hunique.eq_of_same (List.mem_map.2 ⟨q, hmem, rfl⟩) (List.mem_map.2 ⟨q', hmem', rfl⟩)
    hkeys
  exact congrArg (amount o) (congrArg Prod.snd heq)

/-- The result is the same for every order of the rows in the imbalance dataset exactly if the rows
    with the key of a report agree on the amount. -/
theorem forall_rearranged_iff (h : c.evaluate outer d (some o) = .ok e) :
    (∀ o', o.Rearranged o' → c.evaluate outer d (some o') = .ok e) ↔ c.Settled d o := by
  constructor
  · intro hall r hr q hq q' hq'
    have hfound : ∀ p ∈ partners d o r, found d o r = amount o p := by
      intro p hp
      obtain ⟨o', ho, hlast⟩ := exists_found hp
      obtain ⟨e', he, _, _, hiff⟩ := evaluate_of_rearranged h ho
      cases he.symm.trans (hall o' ho)
      rw [hiff.1 rfl r hr, hlast]
    rw [← hfound q hq, ← hfound q' hq']
  · intro hs o' ho
    obtain ⟨e', he, _, _, hiff⟩ := evaluate_of_rearranged h ho
    rw [he, hiff.2 fun r hr => found_of_settled (hs r hr) ho]

end Check

namespace Compile

variable {config : Config} {c late : Context}

/-- What the order of the rows in an imbalance dataset means for a check that gives a result. In
    another order it gives the same but for the imbalances, and in every order the same if the rows
    with the key of a report agree on the amount. They do where all identifiers of the imbalance
    dataset are identifiers of the condition. -/
theorem imbalance_of_resolve {p : Position} {e i : Expr} {code level : Option Expr}
    {invalid : Bool} {today : Date} {r : Dataset}
    (h : resolve config c late today (.check p e code level (some i) invalid) =
      .ok (.dataset r)) :
    ∃ condition other check s,
      compile ⟨c, config⟩ (.check p e code level (some i) invalid) =
        .ok (.dataset (.check condition (some other) check s)) ∧
      ∃ d o, condition.eval late today = .ok d ∧ other.eval late today = .ok o ∧
        check.evaluate (late.scope today) d (some o) = .ok r ∧
        (∀ o', o.Rearranged o' → ∃ r', check.evaluate (late.scope today) d (some o') = .ok r' ∧
          r'.schema = r.schema ∧ List.Forall₂ (Check.AlikeBut r.schema) r.rows r'.rows) ∧
        ((∀ o', o.Rearranged o' → check.evaluate (late.scope today) d (some o') = .ok r) ↔
          check.Settled d o) ∧
        (o.Distinct → o.schema.identifierNames ⊆ d.schema.identifierNames →
          check.Settled d o) := by
  obtain ⟨plan, hplan, heval⟩ := resolve_dataset_iff.1 h
  cases compile_ok_iff.1 hplan with
  | @check _ _ _ _ _ _ _ condition _ other _ _ _ _ _ _ hsome _ _ _ _ _ _ hcheck =>
    obtain ⟨s, _, rfl⟩ := checkPlan_ok hcheck
    obtain ⟨other, rfl⟩ := Option.isSome_iff_exists.1 (hsome.symm.trans rfl)
    rw [Plan.eval] at heval
    obtain ⟨d, hd, heval⟩ := ok_of_bind heval
    obtain ⟨o?, ho?, heval⟩ := ok_of_bind heval
    rw [Plan.evalOption] at ho?
    obtain ⟨o, ho, ho?⟩ := ok_of_bind ho?
    cases eq_of_pure_ok ho?
    refine ⟨condition, other, _, s, hplan, d, o, hd, ho, heval, fun o' horder => ?_,
      Check.forall_rearranged_iff heval, Check.settled_of_distinct⟩
    obtain ⟨r', hr', hschema, halike, _⟩ := Check.evaluate_of_rearranged heval horder
    exact ⟨r', hr', hschema, halike⟩

def itemized : Dataset where
  schema := ⟨[.identifier "k" .integer, .identifier "j" .integer, .measure "m" .integer], by decide,
    by decide⟩
  rows := [[.integer 1, .integer 1, .integer 5], [.integer 1, .integer 2, .integer 7],
    [.integer 2, .integer 1, .integer 4], [.integer 2, .integer 2, .integer 4]]

def itemizing : Context := ⟨[("C", .dataset verdicts), ("I", .dataset itemized)]⟩

def itemizingReversed : Context :=
  ⟨[("C", .dataset verdicts), ("I", .dataset ⟨itemized.schema, itemized.rows.reverse⟩)]⟩

theorem imbalance_of_resolve_itemizing :
    ∃ check s r, compile ⟨itemizing, {}⟩ (judgingCheck true) = .ok (.dataset
        (.check (.named "C" verdicts.schema) (some (.named "I" itemized.schema)) check s)) ∧
      resolve {} itemizing itemizing .epoch (judgingCheck true) = .ok (.dataset r) ∧
      r.column? Report.imbalanceName = some [.integer 4, .null] ∧
      ∀ o, itemized.Rearranged o →
        check.evaluate (itemizing.scope .epoch) verdicts (some o) = .ok r := by
  obtain ⟨r, hr, hcolumn⟩ : ∃ r, resolve {} itemizing itemizing .epoch (judgingCheck true) =
      .ok (.dataset r) ∧ r.column? Report.imbalanceName = some [.integer 4, .null] := ⟨_, rfl, rfl⟩
  obtain ⟨_, _, check, s, hplan, d, o, hd, ho, _, _, hiff, _⟩ := imbalance_of_resolve hr
  cases hplan
  cases hd
  cases ho
  exact ⟨_, _, r, rfl, hr, hcolumn, hiff.2 (by decide)⟩

theorem wellFormed_itemizing : itemizing.WellFormed := by
  refine wellFormed_of_entries fun p hp => ?_
  simp only [itemizing, List.mem_cons, List.not_mem_nil, or_false] at hp
  rcases hp with rfl | rfl
  all_goals
    refine ⟨?_, ?_⟩
    · unfold Dataset.Conforms Schema.Admits Conform
      decide
    · unfold Dataset.Distinct
      decide

theorem rearranged_itemizing : itemizing.Rearranged itemizingReversed := by
  refine Context.rearranged_of_entries (.cons ⟨rfl, .refl _⟩ (.cons ⟨rfl, ?_⟩ .nil))
  exact .dataset ⟨rfl, (List.reverse_perm _).symm⟩

/-- The full check is accepted, and reports for the first key whichever amount comes last. -/
theorem imbalance_by_order : itemizing.WellFormed ∧ itemizing.Rearranged itemizingReversed ∧
    (∃ r, resolve {} itemizing itemizing .epoch (judgingCheck false) = .ok (.dataset r) ∧
      r.column? Report.imbalanceName = some [.integer 7, .integer 4, .null, .null]) ∧
    ∃ r, resolve {} itemizing itemizingReversed .epoch (judgingCheck false) = .ok (.dataset r) ∧
      r.column? Report.imbalanceName = some [.integer 5, .integer 4, .null, .null] :=
  ⟨wellFormed_itemizing, rearranged_itemizing, ⟨_, rfl, rfl⟩, ⟨_, rfl, rfl⟩⟩

end Compile
end Tabular
