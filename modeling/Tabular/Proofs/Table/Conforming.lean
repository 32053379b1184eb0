import Tabular.Proofs.Table.Hierarchy
import Tabular.Proofs.Texts

set_option autoImplicit false

namespace Tabular
namespace HierarchyCheck

variable {c : HierarchyCheck} {d : Dataset} {out : Schema} {first : Row} {rule : HierarchyRule}
  {r : HierarchyResult} {row : Row}

theorem codeCell_conforms_iff (t : ScalarType) (code : String) :
    (codeCell t code).conforms t = true ↔ ∃ v, Value.parse? t code = some v := by
  unfold codeCell
  cases h : Value.parse? t code with
  | some v =>
    exact iff_of_true (Value.conforms_iff.2 (.inr (Value.type_of_parse? h))) ⟨v, rfl⟩
  | none =>
    have ht : t ≠ .string := by
      rintro rfl
      cases h
    refine iff_of_false (fun hc => ?_) (by simp)
    rw [Option.getD_none, Value.conforms_iff] at hc
    cases t <;> simp [Value.type?] at hc ht

def Other (c : HierarchyCheck) (e : Component) : Prop :=
  c.options.keepComponent = true → e.name ≠ c.target.component

theorem Reads.other_conforms (h : c.Reads d out first rule r row)
    (hs : c.schema d.schema = .ok out) (hr : Measured c.target.type r)
    (hf : ∀ i ∈ d.schema.components, (d.schema.read first i.name).conforms i.type = true) :
    ∀ e ∈ out.components, c.Other e → (out.read row e.name).conforms e.type = true := by
  intro e he hother
  rw [Schema.components_of_ofComponents hs] at he
  simp only [List.mem_append, or_assoc] at he
  rcases he with he | he | he | he | he | he
  · obtain ⟨hi, hkept⟩ := List.mem_filter.1 he
    have hname : e.name ≠ c.target.component := by
      by_cases hkeep : c.options.keepComponent = true
      · exact hother hkeep
      · simpa [hkeep] using hkept
    rw [h.shared e hi hname]
    exact hf e (List.mem_of_mem_filter hi)
  · cases List.mem_singleton.1 he
    exact h.ruleId ▸ rfl
  · unfold measureComponents at he
    split at he
    · cases he
    · rename_i ho
      cases List.mem_singleton.1 he
      exact h.measure ho ▸ hr.1
  · unfold resultComponents at he
    split at he
    · cases he
    · rename_i ho
      cases List.mem_singleton.1 he
      rw [show Report.result.name = Report.resultName from rfl, h.result ho]
      cases r.holds <;> rfl
  · cases List.mem_singleton.1 he
    exact h.imbalance ▸ hr.2
  · have herrors : Conform Report.errors (Report.errors.map fun x => out.read row x.name) := by
      change Conform Report.errors [out.read row Report.codeName, out.read row Report.levelName]
      rw [h.errors]
      exact Report.errors_conform ..
    exact List.forall₂_same.1 (List.forall₂_map_right_iff.1 herrors) e he

/-- A report conforms exactly if it does not keep the rule component, or the left-hand code of the
    rule reads as a value of its type. -/
theorem Reads.admits_iff (h : c.Reads d out first rule r row)
    (hs : c.schema d.schema = .ok out) (hr : Measured c.target.type r)
    (hf : ∀ i ∈ d.schema.components, (d.schema.read first i.name).conforms i.type = true)
    {code : Component} (hcode : code ∈ d.schema.identifiers)
    (hname : code.name = c.target.component) :
    out.Admits row ↔ (c.options.keepComponent = true → ∀ i ∈ d.schema.identifiers,
      i.name = c.target.component → ∃ v, Value.parse? i.type rule.lhs = some v) := by
  have hkept : c.options.keepComponent = true → ∀ i ∈ d.schema.identifiers,
      i ∈ out.components := by
    intro hkeep i hi
    rw [Schema.components_of_ofComponents hs]
    simp [hi, hkeep]
  constructor
  · intro ha hkeep i hi hname
    have hv := ha.read (hkept hkeep i hi)
    rw [h.kept hkeep i hi hname] at hv
    exact (codeCell_conforms_iff _ _).1 hv
  · intro hreads
    refine Schema.admits_of_reads h.length fun e he => ?_
    by_cases hother : c.Other e
    · exact h.other_conforms hs hr hf e he hother
    · obtain ⟨hkeep, hsame⟩ : c.options.keepComponent = true ∧ e.name = c.target.component := by
        simpa [Other] using hother
      rw [Schema.eq_of_name_eq he (hkept hkeep code hcode) (hsame.trans hname.symm),
        h.kept hkeep code hcode hname]
      exact (codeCell_conforms_iff _ _).2 (hreads hkeep code hcode hname)

theorem reportRule_ok {k : Columns} {input : Schema} {members : List Row}
    (h : c.reportRule input k members rule = .ok (some row)) :
    ∃ r, evaluateRule c.options c.target.type (codeValue k members) rule = .ok (some r) ∧
      row = c.reportRow input k (members.headD []) rule r := by
  obtain ⟨result, hr, h⟩ := ok_of_bind h
  cases result with
  | none => cases h
  | some r =>
    dsimp only at h
    split at h
    · exact ⟨r, hr, (Option.some.inj (eq_of_pure_ok h)).symm⟩
    · cases h

/-- Every report of a check that succeeds has one value for each component, under all components
    but the rule component the values conform, and the report as a whole conforms exactly if it
    does not keep the rule component or the left-hand code of its rule reads as a value of the
    component's type. -/
theorem admits_iff_of_evaluate {e : Dataset} {name component : String} {input : InputMode}
    (hd : d.Conforms) (ht : HierarchyTarget.of d.schema name component input = .ok c.target)
    (h : c.evaluate d = .ok e) :
    ∀ row ∈ e.rows, ∃ rule ∈ c.rules, e.schema.read row Report.ruleName = .string rule.id ∧
      row.length = e.schema.size ∧
      (∀ x ∈ e.schema.components, c.Other x →
        (e.schema.read row x.name).conforms x.type = true) ∧
      (e.schema.Admits row ↔ (c.options.keepComponent = true → ∀ i ∈ d.schema.identifiers,
        i.name = c.target.component → ∃ v, Value.parse? i.type rule.lhs = some v)) := by
  obtain ⟨m, i, hsole, hnum, hget, hid, htarget⟩ := HierarchyTarget.of_ok ht
  obtain ⟨hi, hname⟩ := Schema.get?_eq_some.1 hget
  have hcode : i ∈ d.schema.identifiers := List.mem_filter.2 ⟨hi, hid⟩
  have hname : i.name = c.target.component := by rw [hname, htarget]
  have hm : d.schema.Declares c.target.measure c.target.type :=
    ⟨m, (Schema.soleMeasure?_ok hsole).2, by rw [htarget], by rw [htarget]⟩
  have htype : c.target.type.isNumeric = true := by
    rw [htarget]
    exact hnum
  obtain ⟨s, hs, h⟩ := ok_of_bind h
  obtain ⟨rows, hr, h⟩ := ok_of_bind h
  cases eq_of_pure_ok h
  obtain ⟨k, hk, hr⟩ := ok_of_bind hr
  have hs := liftModel_ok hs
  have hk := liftModel_ok hk
  intro row hrow
  obtain ⟨⟨g, rule⟩, hp, part, ⟨report, hreport, rfl⟩, hmem⟩ :=
    (reportGroups_joined hr).exists_of_mem hrow
  obtain ⟨hg, hrule⟩ := List.mem_product.1 hp
  cases Option.mem_toList.1 hmem
  obtain ⟨r, heval, rfl⟩ := reportRule_ok hreport
  have hconf := groups_conform hd hk hm g hg
  have hfirst := read_headD_conforms fun q hq => (hconf q hq).1
  have hmeasured : Measured c.target.type r :=
    (safe_evaluateRule htype c.options (codeValue_conforms fun q hq => (hconf q hq).2)
      rule).of_ok heval r rfl
  have hreads := reads_reportRow hs hk (g.2.headD []) rule r
  exact ⟨rule, hrule, hreads.ruleId, hreads.length, hreads.other_conforms hs hmeasured hfirst,
    hreads.admits_iff hs hmeasured hfirst hcode hname⟩

def numbered : Dataset where
  schema :=
    ⟨[.identifier "month" .integer, .identifier "code" .integer, .measure "amount" .integer],
      by decide, by decide⟩
  rows := [[.integer 1, .integer 7, .integer 5]]

def numberedCheck (lhs : String) : HierarchyCheck where
  rules := [⟨"r1", lhs, .compare .eq, [], none, none⟩]
  target := ⟨"amount", .integer, "code"⟩
  options := ⟨.alwaysNull, .all, .skipIncomplete, true⟩

theorem admits_iff_of_evaluate_numbered :
    ∃ e, (numberedCheck "7").evaluate numbered = .ok e ∧
      e.rows = [[.integer 1, .integer 7, .string "r1", .boolean false, .integer 5, .null, .null]] ∧
      ∀ row ∈ e.rows, e.schema.Admits row := by
  have hd : numbered.Conforms := by
    unfold Dataset.Conforms Schema.Admits Conform
    decide
  have ht : HierarchyTarget.of numbered.schema "numbered" "code" .dataset =
      .ok (numberedCheck "7").target := rfl
  refine ⟨_, rfl, rfl, fun row hrow => ?_⟩
  obtain ⟨rule, hrule, _, _, _, hiff⟩ := admits_iff_of_evaluate hd ht rfl row hrow
  refine hiff.2 fun _ i hi hname => ?_
  have htype : ∀ i ∈ numbered.schema.identifiers, i.name = "code" → i.type = .integer := by decide
  cases List.mem_singleton.1 hrule
  rw [htype i hi hname]
  exact ⟨.integer 7, rfl⟩

/-- The code of the rule is no integer, and it stands under a component of integers. -/
theorem text_under_integers :
    numbered.Conforms ∧
    HierarchyTarget.of numbered.schema "numbered" "code" .dataset =
      .ok (numberedCheck "T").target ∧
    ∃ e, (numberedCheck "T").evaluate numbered = .ok e ∧
      e.rows = [[.integer 1, .string "T", .string "r1", .null, .null, .null, .null]] ∧
      e.schema.components[1]? = some (.identifier "code" .integer) ∧
      ¬ ∀ row ∈ e.rows, e.schema.Admits row := by
  refine ⟨?_, rfl, _, rfl, rfl, rfl, ?_⟩
  · unfold Dataset.Conforms Schema.Admits Conform
    decide
  · unfold Schema.Admits Conform
    decide

end HierarchyCheck
end Tabular
