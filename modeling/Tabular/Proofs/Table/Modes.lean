import Mathlib.Data.List.Basic
import Tabular.Compile.Define
import Tabular.Proofs.Order.Rows
import Tabular.Proofs.Structure

set_option autoImplicit false

/-!
# One hierarchy check in several modes

The validation mode and the policy decide which rules are evaluated and what a missing code counts
for. Where a mode evaluates only rules that another evaluates too, with the same values, its
reports are among those of the other, in the same order. The output mode decides what is shown of
the reports: the rows of every output mode follow from those of `allMeasures`.
-/
namespace Tabular

section
variable {ε α β γ : Type}

theorem collect_sublist {give give' : α → Except ε (List β)} {xs : List α}
    (h : ∀ x ∈ xs, ∀ part', give' x = .ok part' → ∃ part, give x = .ok part ∧ part.Sublist part')
    {out' : List β} (ho : collect give' xs = .ok out') :
    ∃ out, collect give xs = .ok out ∧ out.Sublist out' := by
  induction xs generalizing out' with
  | nil =>
    cases ho
    exact ⟨[], rfl, .slnil⟩
  | cons x xs ih =>
    obtain ⟨hx, hxs⟩ := List.forall_mem_cons.1 h
    obtain ⟨part', hp, ho⟩ := ok_of_bind ho
    obtain ⟨rest', hr, ho⟩ := ok_of_bind ho
    cases eq_of_pure_ok ho
    obtain ⟨part, hpart, hps⟩ := hx part' hp
    obtain ⟨rest, hrest, hrs⟩ := ih hxs hr
    refine ⟨part ++ rest, ?_, hps.append hrs⟩
    rw [collect, hpart, hrest]
    rfl

theorem Paired.related {R : α → β → Prop} {a : α} {b : β}
    (h : Paired R (.ok a : Except ε α) (.ok b)) : R a b := by
  cases h with
  | ok h => exact h

theorem collect_paired {R : List β → List γ → Prop} (hnil : R [] [])
    (happend : ∀ {as bs cs ds}, R as cs → R bs ds → R (as ++ bs) (cs ++ ds))
    {give : α → Except ε (List β)} {give' : α → Except ε (List γ)} {xs : List α}
    (h : ∀ x ∈ xs, Paired R (give x) (give' x)) :
    Paired R (collect give xs) (collect give' xs) := by
  induction xs with
  | nil => exact .ok hnil
  | cons x xs ih =>
    obtain ⟨hx, hxs⟩ := List.forall_mem_cons.1 h
    exact hx.bind fun _ _ hp => (ih hxs).bind fun _ _ hr => .ok (happend hp hr)

end

/-- The rules of a ruleset that a statement defines have right-hand codes. -/
theorem Compile.hierarchyRules_rhs {ruleset : String} {n : Nat} {seen : List String}
    {texts : List HierarchyRuleText} {rules : List HierarchyRule}
    (h : hierarchyRules ruleset n seen texts = .ok rules) : ∀ rule ∈ rules, rule.rhs ≠ [] := by
  induction texts generalizing n seen rules with
  | nil =>
    cases h
    exact nofun
  | cons t texts ih =>
    obtain ⟨_, hcheck, h⟩ := ok_of_bind h
    obtain ⟨_, _, h⟩ := ok_of_bind h
    obtain ⟨_, _, h⟩ := ok_of_bind h
    obtain ⟨more, hm, h⟩ := ok_of_bind h
    cases eq_of_pure_ok h
    refine List.forall_mem_cons.2 ⟨fun hrhs => ?_, ih hm⟩
    dsimp only at hrhs
    rw [checkHierarchyRule, hrhs] at hcheck
    split at hcheck <;> cases hcheck

namespace HierarchyCheck

variable {c : HierarchyCheck} {d : Dataset}

theorem reportGroups_pairs (c : HierarchyCheck) (input : Schema) (k : Columns)
    (gs : Keyed (List Row)) :
    c.reportGroups input k gs =
      collect (fun p => (c.reportRule input k p.1.2 p.2).map Option.toList) (gs ×ˢ c.rules) := by
  have hgroup : ∀ (g : Key × List Row) (rules : List HierarchyRule),
      c.reportGroup input k g.2 rules = collect
        (fun p => (c.reportRule input k p.1.2 p.2).map Option.toList) (rules.map (Prod.mk g)) := by
    intro g rules
    rw [collect_map]
    induction rules with
    | nil => rfl
    | cons rule rest ih =>
      rw [reportGroup, collect, ih]
      cases c.reportRule input k g.2 rule <;> rfl
  induction gs with
  | nil => rfl
  | cons g rest ih =>
    rw [reportGroups, ih, List.product_cons, collect_append, hgroup]

def treating (c : HierarchyCheck) (mode : ValidationMode) (policy : NonNullPolicy) :
    HierarchyCheck :=
  { c with options := { c.options with validation := mode, policy := policy } }

/-- Validation modes, with their policies, of which the first evaluates less. -/
inductive Nested : ValidationMode → NonNullPolicy → ValidationMode → NonNullPolicy → Prop
  | completePartialNull (p : NonNullPolicy) : Nested .nonNull .skipIncomplete .partialNull p
  | partialAlwaysNull (p q : NonNullPolicy) : Nested .partialNull p .alwaysNull q
  | completePartialZero (p : NonNullPolicy) : Nested .nonNull .skipIncomplete .partialZero p
  | partialAlwaysZero (p q : NonNullPolicy) : Nested .partialZero p .alwaysZero q
  | nonZeroAlwaysZero (p q : NonNullPolicy) : Nested .nonZero p .alwaysZero q
  | completeAvailable : Nested .nonNull .skipIncomplete .nonNull .computeAvailable

/-- The items of a rule count for the same under both options. -/
structure CountAlike (o o' : HierarchyOptions) (type : ScalarType) (lhs : Option Value)
    (rhs : List (Option Value)) : Prop where
  left : lhs.getD (missingLeft o type) = lhs.getD (missingLeft o' type)
  right : ∀ x ∈ rhs, x.getD (missingRight o type) = x.getD (missingRight o' type)

section
variable {o o' : HierarchyOptions} {lhs : Option Value} {rhs : List (Option Value)}

theorem countAlike_of_present (h : (lhs :: rhs).all Option.isSome = true) (type : ScalarType) :
    CountAlike o o' type lhs rhs := by
  have hsame : ∀ x ∈ lhs :: rhs, ∀ v w : Value, x.getD v = x.getD w := by
    intro x hx v w
    obtain ⟨u, rfl⟩ := Option.isSome_iff_exists.1 (List.all_eq_true.1 h x hx)
    rfl
  exact ⟨hsame lhs (List.mem_cons_self ..) _ _,
    fun x hx => hsame x (List.mem_cons_of_mem _ hx) _ _⟩

theorem all_isSome_of_emits (hv : o.validation = .nonNull) (hp : o.policy = .skipIncomplete)
    (h : emits o lhs rhs = true) :
    (lhs :: rhs).all Option.isSome = true ∧
      ((lhs :: rhs).filterMap id).all (fun v => !v.isNull) = true := by
  unfold emits at h
  rw [hv, hp] at h
  exact Bool.and_eq_true_iff.1 h

theorem any_of_complete (h : (lhs :: rhs).all Option.isSome = true)
    (hn : ((lhs :: rhs).filterMap id).all (fun v => !v.isNull) = true) :
    ((lhs :: rhs).filterMap id).any (fun v => !v.isNull) = true := by
  obtain ⟨v, rfl⟩ := Option.isSome_iff_exists.1 (List.all_eq_true.1 h lhs (List.mem_cons_self ..))
  have hpresent : (some v :: rhs).filterMap id = v :: rhs.filterMap id := rfl
  rw [hpresent, List.all_cons, Bool.and_eq_true_iff] at hn
  rw [hpresent, List.any_cons, hn.1, Bool.true_or]

theorem emits_of_nested
    (h : Nested o.validation o.policy o'.validation o'.policy)
    (hr : o'.validation = .nonNull → rhs ≠ []) (he : emits o lhs rhs = true) :
    emits o' lhs rhs = true := by
  obtain ⟨v, output, p, keep⟩ := o
  obtain ⟨v', output', p', keep'⟩ := o'
  cases h with
  | completePartialNull p =>
    obtain ⟨hall, hnull⟩ := all_isSome_of_emits rfl rfl he
    exact any_of_complete hall hnull
  | partialAlwaysNull p q => rfl
  | completePartialZero p =>
    obtain ⟨hall, hnull⟩ := all_isSome_of_emits rfl rfl he
    exact any_of_complete hall hnull
  | partialAlwaysZero p q => rfl
  | nonZeroAlwaysZero p q => rfl
  | completeAvailable =>
    obtain ⟨hall, _⟩ := all_isSome_of_emits rfl rfl he
    obtain ⟨hl, hs⟩ := Bool.and_eq_true_iff.1 ((List.all_cons ..).symm.trans hall)
    obtain ⟨x, xs, hx⟩ := List.exists_cons_of_ne_nil (hr rfl)
    refine Bool.and_eq_true_iff.2 ⟨hl, List.any_eq_true.2 ⟨x, ?_, List.all_eq_true.1 hs x ?_⟩⟩ <;>
      simp [hx]

theorem countAlike_of_nested (h : Nested o.validation o.policy o'.validation o'.policy)
    (he : emits o lhs rhs = true) (type : ScalarType) : CountAlike o o' type lhs rhs := by
  obtain ⟨v, output, p, keep⟩ := o
  obtain ⟨v', output', p', keep'⟩ := o'
  cases h with
  | completePartialNull p => exact countAlike_of_present (all_isSome_of_emits rfl rfl he).1 type
  | partialAlwaysNull p q => exact ⟨rfl, fun _ _ => rfl⟩
  | completePartialZero p => exact countAlike_of_present (all_isSome_of_emits rfl rfl he).1 type
  | partialAlwaysZero p q => exact ⟨rfl, fun _ _ => rfl⟩
  | nonZeroAlwaysZero p q => exact ⟨rfl, fun _ _ => rfl⟩
  | completeAvailable => exact countAlike_of_present (all_isSome_of_emits rfl rfl he).1 type

end

theorem total_congr {missing missing' : Value} (acc : Value) {items : List (Sign × Option Value)}
    (h : ∀ p ∈ items, p.2.getD missing = p.2.getD missing') :
    total missing acc items = total missing' acc items := by
  induction items generalizing acc with
  | nil => rfl
  | cons p rest ih =>
    obtain ⟨hp, hrest⟩ := List.forall_mem_cons.1 h
    rw [total, total, hp]
    exact congrArg _ (funext fun next => ih next hrest)

/-- A rule is passed over, or its outcome is that of the wider mode. -/
theorem evaluateRule_of_nested {o o' : HierarchyOptions}
    (h : Nested o.validation o.policy o'.validation o'.policy) (type : ScalarType)
    (value : String → Option Value) {rule : HierarchyRule}
    (hr : o'.validation = .nonNull → rule.rhs ≠ []) :
    evaluateRule o type value rule = .ok none ∨
      evaluateRule o type value rule = evaluateRule o' type value rule := by
  have hcodes : (rule.rhs.map fun i => (i.sign, value i.code)).map (·.2) =
      rule.rhs.map fun i => value i.code := List.map_map ..
  cases he : emits o (value rule.lhs) (rule.rhs.map fun i => value i.code) with
  | false =>
    left
    unfold evaluateRule
    dsimp only
    rw [hcodes, he]
    rfl
  | true =>
    right
    have he' := emits_of_nested h (fun hv => by simpa using hr hv) he
    have hcount := countAlike_of_nested h he type
    have hitems : ∀ p ∈ rule.rhs.map fun i => (i.sign, value i.code),
        p.2.getD (missingRight o type) = p.2.getD (missingRight o' type) := by
      intro p hp
      obtain ⟨i, hi, rfl⟩ := List.mem_map.1 hp
      exact hcount.right _ (List.mem_map_of_mem hi)
    have htotal := total_congr (.zero type) hitems
    unfold evaluateRule
    dsimp only
    rw [hcodes, he, he', htotal, hcount.left]

theorem reportRule_of_nested {v v' : ValidationMode} {p p' : NonNullPolicy} (h : Nested v p v' p')
    (input : Schema) (k : Columns) (members : List Row) {rule : HierarchyRule}
    (hr : v' = .nonNull → rule.rhs ≠ []) :
    (c.treating v p).reportRule input k members rule = .ok none ∨
      (c.treating v p).reportRule input k members rule =
        (c.treating v' p').reportRule input k members rule := by
  have hn : Nested (c.treating v p).options.validation (c.treating v p).options.policy
      (c.treating v' p').options.validation (c.treating v' p').options.policy := h
  unfold reportRule
  rcases evaluateRule_of_nested hn c.target.type (codeValue k members) hr with hx | hx
  · left
    rw [show (c.treating v p).target = c.target from rfl, hx]
    rfl
  · right
    rw [show (c.treating v p).target = c.target from rfl, hx]
    rfl

/-- A check that succeeds under a validation mode succeeds under one that evaluates less, and then
    its rows are some of the rows of the first, in the same order. Rules without right-hand codes
    are left out where the modes differ in what they ask of these. -/
theorem sublist_of_nested {v v' : ValidationMode} {p p' : NonNullPolicy} (h : Nested v p v' p')
    (hr : v' = .nonNull → ∀ rule ∈ c.rules, rule.rhs ≠ []) {out' : Dataset}
    (ho : (c.treating v' p').evaluate d = .ok out') :
    ∃ out, (c.treating v p).evaluate d = .ok out ∧ out.schema = out'.schema ∧
      out.rows.Sublist out'.rows := by
  obtain ⟨s, hs, ho⟩ := ok_of_bind ho
  obtain ⟨rows', hrows', ho⟩ := ok_of_bind ho
  cases eq_of_pure_ok ho
  obtain ⟨k, hk, hrows'⟩ := ok_of_bind hrows'
  rw [reportGroups_pairs] at hrows'
  have hreport : ∀ q ∈ groups k d.rows ×ˢ c.rules, ∀ part',
      ((c.treating v' p').reportRule d.schema k q.1.2 q.2).map Option.toList = .ok part' →
      ∃ part, ((c.treating v p).reportRule d.schema k q.1.2 q.2).map Option.toList = .ok part ∧
        part.Sublist part' := by
    intro q hq part' hp
    have hrule := (List.mem_product.1 hq).2
    rcases reportRule_of_nested h d.schema k q.1.2 (fun hv => hr hv q.2 hrule) with hx | hx
    · exact ⟨[], by rw [hx]; rfl, List.nil_sublist _⟩
    · exact ⟨part', by rw [hx]; exact hp, .refl _⟩
  obtain ⟨rows, hrows, hsub⟩ := collect_sublist hreport hrows'
  refine ⟨⟨s, rows⟩, ?_, rfl, hsub⟩
  have hall : (c.treating v p).rows d = .ok rows := by
    rw [HierarchyCheck.rows, show liftModel ((c.treating v p).columns d.schema) = .ok k from hk]
    exact (reportGroups_pairs ..).trans hrows
  rw [evaluate, show liftModel ((c.treating v p).schema d.schema) = .ok s from hs, hall]
  rfl

def accounts : Dataset where
  schema :=
    ⟨[.identifier "month" .integer, .identifier "code" .string, .measure "amount" .integer],
      by decide, by decide⟩
  rows := [[.integer 1, .string "T", .integer 5], [.integer 1, .string "A", .integer 2],
    [.integer 1, .string "B", .integer 3], [.integer 2, .string "T", .integer 4],
    [.integer 2, .string "A", .integer 4]]

def accountsCheck (codes : List HierarchyItem) : HierarchyCheck where
  rules := [⟨"r1", "T", .compare .eq, codes, some "sum", some 1⟩]
  target := ⟨"amount", .integer, "code"⟩
  options := ⟨.nonNull, .all, .skipIncomplete, false⟩

theorem sublist_of_nested_accounts :
    ∃ out out', ((accountsCheck [⟨.plus, "A"⟩, ⟨.plus, "B"⟩]).treating .nonNull
        .computeAvailable).evaluate accounts = .ok out' ∧
      ((accountsCheck [⟨.plus, "A"⟩, ⟨.plus, "B"⟩]).treating .nonNull
        .skipIncomplete).evaluate accounts = .ok out ∧
      out.rows.length = 1 ∧ out'.rows.length = 2 ∧ out.rows.Sublist out'.rows := by
  obtain ⟨out, ho, _, hs⟩ := sublist_of_nested (c := accountsCheck [⟨.plus, "A"⟩, ⟨.plus, "B"⟩])
    (d := accounts) .completeAvailable (fun _ => by decide) rfl
  refine ⟨out, _, rfl, ho, ?_, rfl, hs⟩
  cases ho
  rfl

/-- A rule without right-hand codes is complete, but has no right-hand code that is available. -/
theorem not_sublist_of_bare_rule :
    ∃ out out', ((accountsCheck []).treating .nonNull .computeAvailable).evaluate accounts =
        .ok out' ∧
      ((accountsCheck []).treating .nonNull .skipIncomplete).evaluate accounts = .ok out ∧
      ¬ out.rows.Sublist out'.rows :=
  ⟨_, _, rfl, rfl, nofun⟩

def showing (c : HierarchyCheck) (mode : OutputMode) : HierarchyCheck :=
  { c with options := { c.options with output := mode } }

/-- `e` shows these rows of `d`, without the column of that name. -/
def Without (name : String) (rows : List Row) (d e : Dataset) : Prop :=
  ∃ i, d.schema.indexOf? name = some i ∧
    e.schema.components = d.schema.components.eraseIdx i ∧ e.rows = rows.map (·.eraseIdx i)

theorem eraseIdx_append_cons {α : Type} {as : List α} {i : Nat} (h : as.length = i) (x : α)
    (bs : List α) : (as ++ x :: bs).eraseIdx i = as ++ bs := by
  rw [List.eraseIdx_append_of_length_le (Nat.le_of_eq h), h, Nat.sub_self, List.eraseIdx_zero,
    List.tail_cons]

def shown {α : Type} (mode : OutputMode) (start : List α) (measure result : α) (rest : List α) :
    List α :=
  start ++ (if mode = .all then [] else [measure]) ++
    (if mode = .invalid then [] else [result]) ++ rest

section
variable {α : Type} {start : List α} {i : Nat} (h : start.length = i) (measure result : α)
  (rest : List α)

theorem shown_allMeasures :
    shown .allMeasures start measure result rest = start ++ measure :: result :: rest := by
  simp [shown]

include h

theorem shown_all : shown .all start measure result rest =
    (shown .allMeasures start measure result rest).eraseIdx i := by
  rw [shown_allMeasures, eraseIdx_append_cons h]
  simp [shown]

theorem shown_invalid : shown .invalid start measure result rest =
    (shown .allMeasures start measure result rest).eraseIdx (i + 1) := by
  have hnext : (start ++ [measure]).length = i + 1 := by simp [h]
  rw [shown_allMeasures, List.append_cons, eraseIdx_append_cons hnext]
  simp [shown]

theorem getElem?_shown_measure :
    (shown .allMeasures start measure result rest)[i]? = some measure := by
  simp [shown_allMeasures, ← h]

theorem getElem?_shown_result :
    (shown .allMeasures start measure result rest)[i + 1]? = some result := by
  simp [shown_allMeasures, ← h]

end

section
variable {input : Schema} {k : Columns}

theorem schema_showing (mode : OutputMode) (input : Schema) :
    (c.showing mode).schema input =
      Schema.ofComponents (shown mode (c.keptIdentifiers input ++ [Report.rule])
        (.measure c.target.measure c.target.type) Report.result
        (Report.imbalance c.target.type :: Report.errors)) := by
  unfold schema shown
  rw [List.append_assoc _ [_] Report.errors]
  rfl

theorem reportRow_showing (mode : OutputMode) (first : Row) (rule : HierarchyRule)
    (result : HierarchyResult) :
    (c.showing mode).reportRow input k first rule result =
      shown mode (c.identifierCells input k first rule ++ [.string rule.id]) result.lhs
        (Value.ofOption .boolean result.holds)
        (result.imbalance ::
          Report.errorCells (result.holds == some false) rule.code rule.level) := by
  unfold reportRow shown
  rw [List.append_assoc _ [_] (Report.errorCells ..)]
  rfl

theorem toList_reportRule (mode : OutputMode) (members : List Row) (rule : HierarchyRule) :
    ((c.showing mode).reportRule input k members rule).map Option.toList =
      (evaluateRule c.options c.target.type (codeValue k members) rule).map fun result =>
        result.toList.flatMap fun r =>
          if mode.reports r.holds then
            [(c.showing mode).reportRow input k (members.headD []) rule r]
          else [] := by
  unfold reportRule
  rw [show evaluateRule (c.showing mode).options (c.showing mode).target.type =
    evaluateRule c.options c.target.type from rfl]
  cases evaluateRule c.options c.target.type (codeValue k members) rule with
  | error e => rfl
  | ok result =>
    cases result with
    | none => rfl
    | some r =>
      change Except.map _ (if mode.reports r.holds then _ else _) =
        Except.ok ((if mode.reports r.holds then _ else _) ++ [])
      split <;> rfl

theorem paired_reportRule {mode : OutputMode} {p : Row → Bool} {i : Nat} {members : List Row}
    {rule : HierarchyRule}
    (h : ∀ r : HierarchyResult,
      (if mode.reports r.holds then
          [(c.showing mode).reportRow input k (members.headD []) rule r] else []) =
        ([(c.showing .allMeasures).reportRow input k (members.headD []) rule r].filter p).map
          (·.eraseIdx i)) :
    Paired (fun rows rows' => rows' = (rows.filter p).map (·.eraseIdx i))
      (((c.showing .allMeasures).reportRule input k members rule).map Option.toList)
      (((c.showing mode).reportRule input k members rule).map Option.toList) := by
  rw [toList_reportRule, toList_reportRule]
  cases evaluateRule c.options c.target.type (codeValue k members) rule with
  | error e => exact .error e
  | ok result =>
    refine .ok ?_
    cases result with
    | none => rfl
    | some r => simpa [show OutputMode.allMeasures.reports r.holds = true from rfl] using h r

theorem paired_rows {mode : OutputMode} {p : Row → Bool} {i : Nat}
    (h : ∀ k, c.columns d.schema = .ok k → ∀ first rule (r : HierarchyResult),
      (if mode.reports r.holds then [(c.showing mode).reportRow d.schema k first rule r] else []) =
        ([(c.showing .allMeasures).reportRow d.schema k first rule r].filter p).map
          (·.eraseIdx i)) :
    Paired (fun rows rows' => rows' = (rows.filter p).map (·.eraseIdx i))
      ((c.showing .allMeasures).rows d) ((c.showing mode).rows d) := by
  refine .bind_ok _ fun k hk => ?_
  rw [reportGroups_pairs, reportGroups_pairs]
  refine collect_paired (R := fun rows rows' => rows' = (rows.filter p).map (·.eraseIdx i)) rfl ?_
    fun q _ => paired_reportRule (h k (liftModel_ok hk) _ _)
  rintro as bs _ _ rfl rfl
  rw [List.filter_append, List.map_append]

end

/-- Where a report has the measure, if it shows it; the result follows. -/
def measureIndex (c : HierarchyCheck) (input : Schema) : Nat :=
  (c.keptIdentifiers input ++ [Report.rule]).length

section
variable {k : Columns} (hk : c.columns d.schema = .ok k) (first : Row) (rule : HierarchyRule)
  (r : HierarchyResult)
include hk

theorem length_reportStart :
    (c.identifierCells d.schema k first rule ++ [Value.string rule.id]).length =
      c.measureIndex d.schema := by
  rw [measureIndex, List.length_append, List.length_append, length_identifierCells hk]
  rfl

theorem reportRow_all :
    (if OutputMode.all.reports r.holds then
        [(c.showing .all).reportRow d.schema k first rule r] else []) =
      ([(c.showing .allMeasures).reportRow d.schema k first rule r].filter fun _ => true).map
        (·.eraseIdx (c.measureIndex d.schema)) := by
  rw [reportRow_showing, reportRow_showing, shown_all (length_reportStart hk first rule)]
  rfl

theorem cell_reportRow :
    Row.cell ((c.showing .allMeasures).reportRow d.schema k first rule r)
        (c.measureIndex d.schema + 1) = .boolean false ↔ r.holds = some false := by
  rw [reportRow_showing, Row.cell, List.getD_eq_getElem?_getD,
    getElem?_shown_result (length_reportStart hk first rule), Option.getD_some]
  cases r.holds <;> simp [Value.ofOption]

theorem reportRow_invalid :
    (if OutputMode.invalid.reports r.holds then
        [(c.showing .invalid).reportRow d.schema k first rule r] else []) =
      ([(c.showing .allMeasures).reportRow d.schema k first rule r].filter fun row =>
        row.cell (c.measureIndex d.schema + 1) = .boolean false).map
          (·.eraseIdx (c.measureIndex d.schema + 1)) := by
  have hfails : OutputMode.invalid.reports r.holds = true ↔ r.holds = some false := by
    simp [OutputMode.reports]
  by_cases h : r.holds = some false
  · rw [if_pos (hfails.2 h), List.filter_singleton]
    simp only [cell_reportRow hk first rule r, h]
    rw [reportRow_showing, reportRow_showing, shown_invalid (length_reportStart hk first rule)]
    rfl
  · rw [if_neg (mt hfails.1 h), List.filter_singleton]
    simp only [cell_reportRow hk first rule r, h]
    rfl

end

section
variable {full : Schema} (hs : (c.showing .allMeasures).schema d.schema = .ok full)
include hs

theorem indexOf?_measure :
    full.indexOf? c.target.measure = some (c.measureIndex d.schema) := by
  refine Schema.indexOf?_of_getElem? (c := .measure c.target.measure c.target.type) ?_
  rw [Schema.components_of_ofComponents (schema_showing .. ▸ hs)]
  exact getElem?_shown_measure rfl ..

theorem indexOf?_result :
    full.indexOf? Report.resultName = some (c.measureIndex d.schema + 1) := by
  refine Schema.indexOf?_of_getElem? (c := Report.result) ?_
  rw [Schema.components_of_ofComponents (schema_showing .. ▸ hs)]
  exact getElem?_shown_result rfl ..

theorem exists_schema_showing {mode : OutputMode} {i : Nat}
    (h : shown mode (c.keptIdentifiers d.schema ++ [Report.rule])
        (.measure c.target.measure c.target.type) Report.result
        (Report.imbalance c.target.type :: Report.errors) =
      (shown .allMeasures (c.keptIdentifiers d.schema ++ [Report.rule])
        (.measure c.target.measure c.target.type) Report.result
        (Report.imbalance c.target.type :: Report.errors)).eraseIdx i) :
    ∃ s, (c.showing mode).schema d.schema = .ok s ∧
      s.components = full.components.eraseIdx i := by
  have hfull := Schema.components_of_ofComponents (schema_showing .. ▸ hs)
  have hids : (full.components.eraseIdx i).any Component.isIdentifier = true := by
    rw [hfull, ← h]
    exact List.any_eq_true.2 ⟨Report.rule, by simp [shown], rfl⟩
  have hnames : ((full.components.eraseIdx i).map (·.name)).Nodup :=
    full.nodup.sublist ((List.eraseIdx_sublist ..).map _)
  refine ⟨⟨full.components.eraseIdx i, hnames, hids⟩, ?_, rfl⟩
  rw [schema_showing, h, ← hfull]
  exact Schema.ofComponents_components ⟨full.components.eraseIdx i, hnames, hids⟩

theorem paired_evaluate {mode : OutputMode} {s : Schema}
    (hm : (c.showing mode).schema d.schema = .ok s) {R : List Row → List Row → Prop}
    (hrows : Paired R ((c.showing .allMeasures).rows d) ((c.showing mode).rows d)) :
    Paired (fun a b => a.schema = full ∧ b.schema = s ∧ R a.rows b.rows)
      ((c.showing .allMeasures).evaluate d) ((c.showing mode).evaluate d) := by
  unfold evaluate
  rw [hs, hm]
  exact hrows.bind fun _ _ h => .ok ⟨rfl, rfl, h⟩

/-- If the reports have a structure with all columns, the check succeeds in every output mode or
    fails in every one with the same error. What `all` shows is what `allMeasures` shows without the
    measure, and what `invalid` shows is that without the result, of the rows that fail. -/
theorem views_of_evaluate :
    Paired (fun a b => Without c.target.measure a.rows a b)
        ((c.showing .allMeasures).evaluate d) ((c.showing .all).evaluate d) ∧
      Paired (fun a b => Without Report.resultName
          (a.rows.filter fun r => a.schema.read r Report.resultName = .boolean false) a b)
        ((c.showing .allMeasures).evaluate d) ((c.showing .invalid).evaluate d) := by
  have hmeasure := indexOf?_measure hs
  have hresult := indexOf?_result hs
  constructor
  · obtain ⟨s, hm, hc⟩ := exists_schema_showing hs (shown_all rfl ..)
    refine (paired_evaluate hs hm (paired_rows fun k hk => reportRow_all hk)).imp ?_
    rintro a b ⟨rfl, rfl, hrows⟩
    exact ⟨_, hmeasure, hc, by rw [hrows, List.filter_true]⟩
  · obtain ⟨s, hm, hc⟩ := exists_schema_showing hs (shown_invalid rfl ..)
    refine (paired_evaluate hs hm (paired_rows fun k hk => reportRow_invalid hk)).imp ?_
    rintro a b ⟨rfl, rfl, hrows⟩
    refine ⟨_, hresult, hc, ?_⟩
    simp only [Schema.read_of_indexOf? hresult]
    exact hrows

end

theorem views_of_evaluate_accounts :
    ∃ out, ((accountsCheck [⟨.plus, "A"⟩]).showing .allMeasures).evaluate accounts = .ok out ∧
      out.rows = [[.integer 1, .string "r1", .integer 5, .boolean false, .integer 3,
          .string "sum", .integer 1],
        [.integer 2, .string "r1", .integer 4, .boolean true, .integer 0, .null, .null]] ∧
      (∃ e, ((accountsCheck [⟨.plus, "A"⟩]).showing .all).evaluate accounts = .ok e ∧
        Without "amount" out.rows out e) ∧
      ∃ e, ((accountsCheck [⟨.plus, "A"⟩]).showing .invalid).evaluate accounts = .ok e ∧
        Without "bool_var" (out.rows.filter fun r => out.schema.read r "bool_var" = .boolean false)
          out e := by
  refine ⟨_, rfl, rfl, ?_⟩
  obtain ⟨hall, hinvalid⟩ := views_of_evaluate (c := accountsCheck [⟨.plus, "A"⟩]) (d := accounts)
    rfl
  exact ⟨⟨_, rfl, hall.related⟩, ⟨_, rfl, hinvalid.related⟩⟩

end HierarchyCheck
end Tabular
