import Mathlib.Data.List.Pairwise
import Tabular.Proofs.Compile.Plans
import Tabular.Proofs.Grouping
import Tabular.Proofs.Safety.Reports
import Tabular.Proofs.Table.Amounts
import Tabular.Proofs.Texts

set_option autoImplicit false

/-!
# The table of a hierarchy check

On an integer measure a hierarchy check reports, group after group and rule after rule, exactly the
rules that the validation mode evaluates, with the sides and the imbalance in exact arithmetic.
Codes are compared as texts. In a group no two rows have codes of the same text, so a code stands
for one row at most.
-/
namespace Tabular

theorem Dataset.Distinct.eq_of_key {d : Dataset} (h : d.Distinct) {q r : Row} (hq : q ∈ d.rows)
    (hr : r ∈ d.rows) (hk : Key.same (d.rowKey q) (d.rowKey r) = true) : q = r := by
  by_contra hne
  have hsymm : Std.Symm fun a b => Key.same (d.rowKey a) (d.rowKey b) = false :=
    ⟨fun a b hab => by rwa [Key.same_comm]⟩
  have hdiffer := List.Pairwise.forall h hq hr hne
  rw [hk] at hdiffer
  cases hdiffer

namespace HierarchyCheck

/-- What stands under the identifiers other than the rule component. -/
def sharedKey (c : HierarchyCheck) (s : Schema) (r : Row) : Key :=
  (s.identifiers.filter (·.name != c.target.component)).map fun i => s.read r i.name

def codeOf (c : HierarchyCheck) (d : Dataset) (r : Row) : Value :=
  d.schema.read r c.target.component

def coded (c : HierarchyCheck) (d : Dataset) : List Row :=
  d.rows.filter fun r => !(c.codeOf d r).isNull

def firsts (c : HierarchyCheck) (d : Dataset) : List Row :=
  Keyed.leaders (c.sharedKey d.schema) (c.coded d)

/-- The row is in the group of `first` and carries the code. -/
structure Carries (c : HierarchyCheck) (d : Dataset) (first : Row) (code : String) (r : Row) :
    Prop where
  coded : r ∈ c.coded d
  fellow : Key.same (c.sharedKey d.schema first) (c.sharedKey d.schema r) = true
  text : (c.codeOf d r).render = code

/-- The item of a code in the group of `first`: nothing if no row carries the code, and else the
    amount of the only row that does. -/
def Stands (c : HierarchyCheck) (d : Dataset) (first : Row) (code : String) : Item → Prop
  | none => ∀ r, ¬ c.Carries d first code r
  | some a => ∃ r, (∀ q, c.Carries d first code q ↔ q = r) ∧
      Shows (d.schema.read r c.target.measure) a

/-- Among the codes numbers of the same text are the same number. -/
def NumbersApart (c : HierarchyCheck) (d : Dataset) : Prop :=
  ∀ q ∈ d.rows, ∀ r ∈ d.rows, ∀ x y, c.codeOf d q = .number x → c.codeOf d r = .number y →
    (Value.number x).render = (Value.number y).render → Number.same x y = true

/-- The row that reports a rule on the group of `first`, by names. -/
structure Reports (c : HierarchyCheck) (d : Dataset) (out : Schema) (first : Row)
    (rule : HierarchyRule) (left right : Amount) (row : Row) : Prop where
  length : row.length = out.size
  shared : ∀ i ∈ d.schema.identifiers, i.name ≠ c.target.component →
    out.read row i.name = d.schema.read first i.name
  kept : c.options.keepComponent = true → ∀ i ∈ d.schema.identifiers,
    i.name = c.target.component → out.read row i.name = codeCell i.type rule.lhs
  ruleId : out.read row Report.ruleName = .string rule.id
  measure : c.options.output ≠ .all → Shows (out.read row c.target.measure) left
  result : c.options.output ≠ .invalid →
    out.read row Report.resultName = Value.ofOption .boolean (verdict rule.op left right)
  imbalance : Shows (out.read row Report.imbalanceName) (difference left right)
  errors : [out.read row Report.codeName, out.read row Report.levelName] =
    Report.errorCells (verdict rule.op left right == some false) rule.code rule.level

/-- Whether a rule is reported on a group with these items. If only failures are reported, it has
    to fail. -/
def Reported (c : HierarchyCheck) (item : String → Item) (rule : HierarchyRule) : Prop :=
  Emits c.options (item rule.lhs) (rule.rhs.map fun i => item i.code) ∧
    (c.options.output = .invalid → verdict rule.op (leftAmount c.options item rule)
      (rightAmount c.options item rule) = some false)

def Contributes (c : HierarchyCheck) (d : Dataset) (out : Schema) (p : Row × HierarchyRule)
    (part : List Row) : Prop :=
  ∃ item : String → Item, (∀ code, c.Stands d p.1 code (item code)) ∧
    (¬ c.Reported item p.2 ∧ part = [] ∨ c.Reported item p.2 ∧
      ∃ row, part = [row] ∧ c.Reports d out p.1 p.2 (leftAmount c.options item p.2)
        (rightAmount c.options item p.2) row)

variable {c : HierarchyCheck} {d : Dataset}

theorem mem_coded {r : Row} : r ∈ c.coded d ↔ r ∈ d.rows ∧ (c.codeOf d r).isNull = false := by
  simp [coded]

theorem same_of_text (hd : d.Conforms) (hn : c.NumbersApart d) {i : Component}
    (hi : i ∈ d.schema.components) (hc : i.name = c.target.component) {q r : Row}
    (hq : q ∈ c.coded d) (hr : r ∈ c.coded d)
    (h : (c.codeOf d q).render = (c.codeOf d r).render) :
    (c.codeOf d q).same (c.codeOf d r) = true := by
  obtain ⟨hq, hqn⟩ := mem_coded.1 hq
  obtain ⟨hr, hrn⟩ := mem_coded.1 hr
  have htype : ∀ {p : Row}, p ∈ d.rows → (c.codeOf d p).isNull = false →
      (c.codeOf d p).type? = some i.type := by
    intro p hp hpn
    have hv := (hd p hp).read hi
    rw [hc] at hv
    exact Value.Fits.type_eq (t := some i.type) hv hpn
  have hqt := htype hq hqn
  have hrt := htype hr hrn
  by_cases hnum : i.type = .number
  · rw [hnum] at hqt hrt
    cases hv : c.codeOf d q <;> rw [hv] at hqt <;> cases hqt
    cases hw : c.codeOf d r <;> rw [hw] at hrt <;> cases hrt
    rename_i x y
    rw [hv, hw] at h
    exact hn q hq r hr x y hv hw h
  · rw [Value.eq_of_render hnum hqt hrt h]
    exact Value.same_iff.2 rfl

theorem Carries.unique (hd : d.Conforms) (hk : d.Distinct) (hn : c.NumbersApart d) {i : Component}
    (hi : i ∈ d.schema.components) (hc : i.name = c.target.component) {first : Row}
    {code : String} {q r : Row} (hq : c.Carries d first code q) (hr : c.Carries d first code r) :
    q = r := by
  refine hk.eq_of_key (mem_coded.1 hq.coded).1 (mem_coded.1 hr.coded).1 ?_
  rw [Dataset.rowKey, Dataset.rowKey, Schema.key_eq, Schema.key_eq]
  refine Key.same_map.2 fun n hm => ?_
  obtain ⟨j, hj, hid, rfl⟩ := Schema.mem_identifierNames.1 hm
  by_cases hcode : j.name = c.target.component
  · rw [hcode]
    exact same_of_text hd hn hi hc hq.coded hr.coded (hq.text.trans hr.text.symm)
  · have hshared : Key.same (c.sharedKey d.schema q) (c.sharedKey d.schema r) = true := by
      have hback := hq.fellow
      rw [Key.same_comm] at hback
      exact Key.same_trans hback hr.fellow
    refine Key.same_map.1 hshared j (List.mem_filter.2 ⟨List.mem_filter.2 ⟨hj, hid⟩, ?_⟩)
    simpa using hcode

def members (c : HierarchyCheck) (d : Dataset) (first : Row) : List Row :=
  Keyed.fellows (c.sharedKey d.schema) (c.coded d) first

theorem groups_eq {k : Columns} (h : c.columns d.schema = .ok k) :
    groups k d.rows = (c.firsts d).map fun r => (c.sharedKey d.schema r, c.members d r) := by
  obtain ⟨hcode, _, _⟩ := columns_ok h
  have hkey : (fun r => Row.key r k.shared) = c.sharedKey d.schema := funext (key_shared h)
  have hrows : (d.rows.filter fun r => !(Row.cell r k.codeColumn).isNull) = c.coded d := by
    unfold coded codeOf
    simp only [Schema.read_of_indexOf? hcode]
  unfold groups
  rw [hkey, hrows]
  exact Keyed.group_eq _ _

theorem mem_members {first r : Row} :
    r ∈ c.members d first ↔ r ∈ c.coded d ∧
      Key.same (c.sharedKey d.schema first) (c.sharedKey d.schema r) = true :=
  List.mem_filter

theorem headD_members {first : Row} (h : first ∈ c.firsts d) :
    (c.members d first).headD [] = first := by
  obtain ⟨rest, hr⟩ := Keyed.fellows_leader h
  rw [members, hr, List.headD_cons]

def amountOf : Value → Amount
  | .integer i => some i.toInt
  | _ => none

theorem shows_amountOf {v : Value} (h : v.conforms .integer = true) : Shows v (amountOf v) := by
  rcases Value.conforms_iff.1 h with rfl | h
  · exact .null
  · obtain ⟨i, rfl⟩ := Value.integer_of_type h
    exact .integer i

section
variable {k : Columns} (hk : c.columns d.schema = .ok k) (first : Row)
include hk

theorem codeValue_eq_none {code : String} (h : codeValue k (c.members d first) code = none) :
    ∀ r, ¬ c.Carries d first code r := by
  obtain ⟨hcode, _, _⟩ := columns_ok hk
  intro r hr
  have hnone := List.find?_eq_none.1 (Option.map_eq_none_iff.1 h) r
    (List.mem_reverse.2 (mem_members.2 ⟨hr.coded, hr.fellow⟩))
  rw [← Schema.read_of_indexOf? hcode] at hnone
  exact hnone (beq_iff_eq.2 hr.text)

theorem codeValue_eq_some {code : String} {v : Value}
    (h : codeValue k (c.members d first) code = some v) :
    ∃ r, c.Carries d first code r ∧ d.schema.read r c.target.measure = v := by
  obtain ⟨hcode, hmeasure, _⟩ := columns_ok hk
  obtain ⟨r, hr, rfl⟩ := Option.map_eq_some_iff.1 h
  obtain ⟨hcoded, hsame⟩ := mem_members.1 (List.mem_reverse.1 (List.mem_of_find?_eq_some hr))
  have htext := List.find?_some hr
  rw [← Schema.read_of_indexOf? hcode] at htext
  exact ⟨r, ⟨hcoded, hsame, beq_iff_eq.1 htext⟩, Schema.read_of_indexOf? hmeasure r⟩

end

theorem stands_codeValue (hd : d.Conforms) (hdist : d.Distinct) (hn : c.NumbersApart d)
    (hc : c.target.component ∈ d.schema.names) (hm : d.schema.Declares c.target.measure .integer)
    {k : Columns} (hk : c.columns d.schema = .ok k) (first : Row) (code : String) :
    ∃ x, ShowsItem (codeValue k (c.members d first) code) x ∧ c.Stands d first code x := by
  obtain ⟨i, hi, hname⟩ := Schema.mem_names.1 hc
  obtain ⟨m, hmem, hmname, hmtype⟩ := hm
  cases hv : codeValue k (c.members d first) code with
  | none => exact ⟨none, .none, codeValue_eq_none hk first hv⟩
  | some v =>
    obtain ⟨r, hr, hread⟩ := codeValue_eq_some hk first hv
    have hconf := (hd r (mem_coded.1 hr.coded).1).read hmem
    rw [hmname, hmtype, hread] at hconf
    have hshows := shows_amountOf hconf
    refine ⟨some (amountOf v), .some hshows, r, fun q => ⟨fun hq => ?_, ?_⟩, hread ▸ hshows⟩
    · exact hq.unique hd hdist hn hi hname hr
    · rintro rfl
      exact hr

theorem length_measure (r : HierarchyResult) :
    (if c.options.output = .all then [] else [r.lhs]).length = c.measureComponents.length := by
  unfold measureComponents
  split <;> rfl

theorem length_result (r : HierarchyResult) :
    (if c.options.output = .invalid then [] else [Value.ofOption .boolean r.holds]).length =
      c.resultComponents.length := by
  unfold resultComponents
  split <;> rfl

structure Reads (c : HierarchyCheck) (d : Dataset) (out : Schema) (first : Row)
    (rule : HierarchyRule) (r : HierarchyResult) (row : Row) : Prop where
  length : row.length = out.size
  shared : ∀ i ∈ d.schema.identifiers, i.name ≠ c.target.component →
    out.read row i.name = d.schema.read first i.name
  kept : c.options.keepComponent = true → ∀ i ∈ d.schema.identifiers,
    i.name = c.target.component → out.read row i.name = codeCell i.type rule.lhs
  ruleId : out.read row Report.ruleName = .string rule.id
  measure : c.options.output ≠ .all → out.read row c.target.measure = r.lhs
  result : c.options.output ≠ .invalid →
    out.read row Report.resultName = Value.ofOption .boolean r.holds
  imbalance : out.read row Report.imbalanceName = r.imbalance
  errors : [out.read row Report.codeName, out.read row Report.levelName] =
    Report.errorCells (r.holds == some false) rule.code rule.level

theorem reads_reportRow {out : Schema} (hs : c.schema d.schema = .ok out) {k : Columns}
    (hk : c.columns d.schema = .ok k) (first : Row) (rule : HierarchyRule)
    (r : HierarchyResult) :
    c.Reads d out first rule r (c.reportRow d.schema k first rule r) := by
  have hcomps := Schema.components_of_ofComponents hs
  have hlength : (c.reportRow d.schema k first rule r).length = out.size := by
    rw [Schema.size, hcomps, reportRow]
    simp only [List.length_append, length_identifierCells hk, length_measure, length_result,
      Report.length_errorCells]
    rfl
  generalize hrow : c.reportRow d.schema k first rule r = row at hlength ⊢
  have hreads := (Schema.eq_map_read hlength).symm.trans hrow.symm
  rw [hcomps, reportRow] at hreads
  simp only [List.map_append, List.append_assoc] at hreads
  obtain ⟨hids, hreads⟩ := List.append_inj hreads
    (by rw [length_identifierCells hk, List.length_map]; rfl)
  obtain ⟨hid, hreads⟩ := List.append_inj hreads rfl
  obtain ⟨hmeasure, hreads⟩ := List.append_inj hreads (by rw [length_measure, List.length_map])
  obtain ⟨hresult, hreads⟩ := List.append_inj hreads (by rw [length_result, List.length_map])
  obtain ⟨himbalance, herrors⟩ := List.append_inj hreads rfl
  rw [identifierCells_eq hk] at hids
  have hcell := List.map_inj_left.1 hids
  refine ⟨hlength, fun i hi hne => ?_, fun hkeep i hi he => ?_, List.head_eq_of_cons_eq hid,
    fun ho => ?_, fun ho => ?_, List.head_eq_of_cons_eq himbalance, herrors⟩
  · have hi' := hcell i (List.mem_filter.2 ⟨hi, by simp [hne]⟩)
    rwa [if_neg hne] at hi'
  · have hi' := hcell i (List.mem_filter.2 ⟨hi, by simp [hkeep]⟩)
    rwa [if_pos he] at hi'
  · rw [measureComponents, if_neg ho, if_neg ho] at hmeasure
    exact List.head_eq_of_cons_eq hmeasure
  · rw [resultComponents, if_neg ho, if_neg ho] at hresult
    exact List.head_eq_of_cons_eq hresult

theorem reports_reportRow {out : Schema} (hs : c.schema d.schema = .ok out) {k : Columns}
    (hk : c.columns d.schema = .ok k) (first : Row) {item : String → Item} {rule : HierarchyRule}
    {r : HierarchyResult} (hr : Follows c.options item rule r) :
    c.Reports d out first rule (leftAmount c.options item rule) (rightAmount c.options item rule)
      (c.reportRow d.schema k first rule r) := by
  have hreads := reads_reportRow hs hk first rule r
  refine ⟨hreads.length, hreads.shared, hreads.kept, hreads.ruleId, fun ho => ?_, fun ho => ?_, ?_,
    ?_⟩
  · rw [hreads.measure ho]
    exact hr.lhs
  · rw [hreads.result ho, hr.holds]
  · rw [hreads.imbalance]
    exact hr.imbalance
  · rw [hreads.errors, hr.holds]

theorem contributes_reportRule {out : Schema} (hs : c.schema d.schema = .ok out) {k : Columns}
    (hk : c.columns d.schema = .ok k) (hi : c.target.type = .integer) {first : Row}
    (hf : first ∈ c.firsts d)
    (hitems : ∀ code, ∃ x, ShowsItem (codeValue k (c.members d first) code) x ∧
      c.Stands d first code x) {rule : HierarchyRule} {row : Option Row}
    (h : c.reportRule d.schema k (c.members d first) rule = .ok row) :
    c.Contributes d out (first, rule) row.toList := by
  choose item hshows hstands using hitems
  refine ⟨item, hstands, ?_⟩
  obtain ⟨res, hres, h⟩ := ok_of_bind h
  rw [hi] at hres
  rcases evaluateRule_follows hshows hres with ⟨rfl, hemits⟩ | ⟨r, rfl, hemits, hr⟩
  · cases eq_of_pure_ok h
    exact .inl ⟨fun hx => hemits hx.1, rfl⟩
  · dsimp only at h
    rw [hr.holds, headD_members hf] at h
    split at h
    · rename_i hreports
      cases eq_of_pure_ok h
      refine .inr ⟨⟨hemits, fun ho => ?_⟩, _, rfl, reports_reportRow hs hk first hr⟩
      simpa [OutputMode.reports, ho] using hreports
    · rename_i hreports
      cases eq_of_pure_ok h
      refine .inl ⟨fun hx => hreports ?_, rfl⟩
      by_cases ho : c.options.output = .invalid
      · simpa [OutputMode.reports] using .inr (hx.2 ho)
      · simp [OutputMode.reports, ho]

/-- A hierarchy check of a dataset with a single, integer measure that succeeds has exactly the rows
    of the table: for each group, in order of appearance, and each rule, in order, the report on the
    rule if the modes call for it. -/
theorem rows_of_evaluate {out : Dataset} {name component : String} {input : InputMode}
    (hd : d.Conforms) (hdist : d.Distinct)
    (ht : HierarchyTarget.of d.schema name component input = .ok c.target)
    (hi : c.target.type = .integer) (hn : c.NumbersApart d) (h : c.evaluate d = .ok out) :
    c.schema d.schema = .ok out.schema ∧
      Joined (c.Contributes d out.schema) (c.firsts d ×ˢ c.rules) out.rows := by
  obtain ⟨m, i, hsole, _, hget, _, htarget⟩ := HierarchyTarget.of_ok ht
  have hm : d.schema.Declares c.target.measure .integer := by
    refine ⟨m, (Schema.soleMeasure?_ok hsole).2, ?_, ?_⟩
    · rw [htarget]
    · rw [← hi, htarget]
  have hc : c.target.component ∈ d.schema.names := by
    rw [htarget]
    exact Schema.mem_names.2 ⟨i, Schema.get?_eq_some.1 hget⟩
  obtain ⟨s, hs, h⟩ := ok_of_bind h
  obtain ⟨rows, hr, h⟩ := ok_of_bind h
  cases eq_of_pure_ok h
  obtain ⟨k, hk, hr⟩ := ok_of_bind hr
  have hs := liftModel_ok hs
  have hk := liftModel_ok hk
  refine ⟨hs, ?_⟩
  rw [groups_eq hk] at hr
  have hjoined := reportGroups_joined hr
  have hpairs : (((c.firsts d).map fun r => (c.sharedKey d.schema r, c.members d r)) ×ˢ c.rules) =
      (c.firsts d ×ˢ c.rules).map fun p =>
        ((c.sharedKey d.schema p.1, c.members d p.1), p.2) := by
    simp [SProd.sprod, List.product, List.flatMap_map, List.map_flatMap, Function.comp_def]
  rw [hpairs] at hjoined
  refine hjoined.of_map.imp ?_
  rintro ⟨first, rule⟩ hp _ ⟨row, hrow, rfl⟩
  have hf := (List.mem_product.1 hp).1
  exact contributes_reportRule hs hk hi hf (stands_codeValue hd hdist hn hc hm hk first) hrow

def ledger : Dataset where
  schema :=
    ⟨[.identifier "year" .integer, .identifier "code" .string, .measure "amount" .integer],
      by decide, by decide⟩
  rows := [[.integer 1, .string "T", .integer 5], [.integer 1, .string "A", .integer 2],
    [.integer 2, .string "A", .integer 1], [.integer 1, .string "B", .integer 3]]

def ledgerCheck : HierarchyCheck where
  rules := [⟨"r1", "T", .compare .eq, [⟨.plus, "A"⟩, ⟨.plus, "B"⟩], some "sum", some 1⟩]
  target := ⟨"amount", .integer, "code"⟩
  options := ⟨.alwaysZero, .allMeasures, .skipIncomplete, false⟩

theorem rows_of_evaluate_ledger :
    ∃ out, ledgerCheck.evaluate ledger = .ok out ∧
      out.rows = [[.integer 1, .string "r1", .integer 5, .boolean true, .integer 0, .null, .null],
        [.integer 2, .string "r1", .integer 0, .boolean false, .integer (-1), .string "sum",
          .integer 1]] ∧
      Joined (ledgerCheck.Contributes ledger out.schema)
        (ledgerCheck.firsts ledger ×ˢ ledgerCheck.rules) out.rows := by
  refine ⟨_, rfl, rfl, ?_⟩
  have hd : ledger.Conforms := by
    unfold Dataset.Conforms Schema.Admits Conform
    decide
  have hk : ledger.Distinct := by
    unfold Dataset.Distinct
    decide
  have hn : ledgerCheck.NumbersApart ledger := by
    have htext : ∀ q ∈ ledger.rows, (ledgerCheck.codeOf ledger q).type? = some .string := by decide
    intro q hq r _ x y hx
    have ht := htext q hq
    rw [hx] at ht
    cases ht
  have ht : HierarchyTarget.of ledger.schema "ledger" "code" .dataset = .ok ledgerCheck.target :=
    rfl
  exact (rows_of_evaluate hd hk ht rfl hn rfl).2

end HierarchyCheck
end Tabular
