import Tabular.Proofs.Compile.Soundness
import Tabular.Proofs.Safety.Reports
import Tabular.Proofs.Structure

set_option autoImplicit false

namespace Tabular

namespace Joined

variable {α β γ : Type} {R : α → List β → Prop} {xs : List α} {out : List β}

theorem of_forall₂ {S : γ → α → Prop} {R' : γ → List β → Prop} {ys : List γ}
    (h : Joined R xs out) (hs : List.Forall₂ S ys xs)
    (hR : ∀ y x part, S y x → R x part → R' y part) : Joined R' ys out := by
  induction h generalizing ys with
  | nil =>
    cases hs
    exact .nil
  | cons hx _ ih =>
    cases hs with
    | cons hyx hs => exact .cons (hR _ _ _ hyx hx) (ih hs)

theorem length_eq (h : Joined R xs out) (h1 : ∀ x part, R x part → part.length = 1) :
    out.length = xs.length := by
  induction h with
  | nil => rfl
  | cons hx _ ih => rw [List.length_append, h1 _ _ hx, ih, List.length_cons, Nat.add_comm]

end Joined

theorem forall₂_product {α β γ : Type} {S : β → γ → Prop} {ys : List β} {zs : List γ}
    (h : List.Forall₂ S ys zs) (xs : List α) :
    List.Forall₂ (fun p q => p.1 = q.1 ∧ S p.2 q.2) (xs ×ˢ ys) (xs ×ˢ zs) := by
  induction xs with
  | nil => exact .nil
  | cons x xs ih =>
    rw [List.product_cons, List.product_cons]
    refine List.rel_append ?_ ih
    rw [List.forall₂_map_left_iff, List.forall₂_map_right_iff]
    exact h.imp fun _ _ hs => ⟨rfl, hs⟩

namespace DatapointCheck

open Compile (Frame Env Compiles)

/-- The value of a rule in a scope: that of the consequent, or true where the antecedent is not
    true. -/
inductive Judges (env : Env) (f : Frame) (s : Scope) (rule : DatapointRule) : Value → Prop
  | always {e : Scalar} {v : Value} (ha : rule.antecedent = none)
      (hc : Compiles env f rule.consequent (.scalar e)) (hv : e.eval s = .ok v) :
      Judges env f s rule v
  | applies {a : Expr} {t e : Scalar} {v : Value} (ha : rule.antecedent = some a)
      (ht : Compiles env f a (.scalar t)) (htrue : t.eval s = .ok (.boolean true))
      (hc : Compiles env f rule.consequent (.scalar e)) (hv : e.eval s = .ok v) :
      Judges env f s rule v
  | passes {a : Expr} {t : Scalar} {w : Value} (ha : rule.antecedent = some a)
      (ht : Compiles env f a (.scalar t)) (hw : t.eval s = .ok w) (hne : w ≠ .boolean true) :
      Judges env f s rule (.boolean true)

/-- A measure that a report repeats: all are, or a variable of the ruleset stands for it. -/
def Retained (mode : OutputMode) (f : Frame) (m : Component) : Prop :=
  mode = .allMeasures ∨ ∃ e ∈ f, e.2.1 = m.name

/-- No measure that is left out has the name of a component of the report's own. -/
def Clear (mode : OutputMode) (f : Frame) (input : Schema) : Prop :=
  ∀ m ∈ input.measures, ¬ Retained mode f m → m.name ∉ ownNames mode

/-- The report on a row and a rule with the value `v`, by names. -/
structure Reports (mode : OutputMode) (f : Frame) (input out : Schema) (r : Row)
    (rule : DatapointRule) (v : Value) (row : Row) : Prop where
  identifiers : ∀ i ∈ input.identifiers, out.read row i.name = input.read r i.name
  ruleId : out.read row Report.ruleName = .string rule.id
  measures : ∀ m ∈ input.measures, Retained mode f m →
    out.read row m.name = input.read r m.name
  result : mode ≠ .invalid → out.read row Report.resultName = v
  errors : [out.read row Report.codeName, out.read row Report.levelName] =
    Report.errorCells (v.boolean? == some false) rule.code rule.level

/-- A pair is reported if all are, or if the rule is false on the row. -/
def Reported (mode : OutputMode) (v : Value) : Prop := mode = .invalid → v = .boolean false

/-- What a row and a rule contribute: one report, or nothing. The report has as many values as the
    result has components exactly if no name gets in the way, and then it has the right ones. -/
def Contributes (env : Env) (f : Frame) (outer : Scope) (mode : OutputMode) (input out : Schema)
    (p : Row × DatapointRule) (part : List Row) : Prop :=
  ∃ v, Judges env f (Scope.ofRow input p.1 outer) p.2 v ∧
    (¬ Reported mode v ∧ part = [] ∨ Reported mode v ∧ ∃ row, part = [row] ∧
      (row.length = out.size ↔ Clear mode f input) ∧
      (Clear mode f input → Reports mode f input out p.1 p.2 v row))

/-- The compiled rule stands for the rule: it has its id, code and level, and its value. -/
structure Represents (env : Env) (f : Frame) (rule : DatapointRule) (r : RowRule) : Prop where
  id : r.id = rule.id
  code : r.code = rule.code
  level : r.level = rule.level
  judges : ∀ s v, r.evaluate s = .ok v → Judges env f s rule v

theorem represents_of_rules {env : Env} {f : Frame} {rs : List DatapointRule}
    {bodies : List (Expr × Scalar)} {rules : List RowRule} (h : Compile.Rules rs bodies rules)
    (hb : ∀ e s, (e, s) ∈ bodies → Compiles env f e (.scalar s)) :
    List.Forall₂ (Represents env f) rs rules := by
  induction h with
  | nil => exact .nil
  | always _ _ ih =>
    have hc := hb _ _ (List.mem_cons_self ..)
    refine .cons ⟨rfl, rfl, rfl, fun s v hv => .always rfl hc hv⟩ (ih fun e s hm => ?_)
    exact hb e s (List.mem_cons_of_mem _ hm)
  | guarded _ _ _ ih =>
    have ht := hb _ _ (List.mem_cons_self ..)
    have hc := hb _ _ (List.mem_cons_of_mem _ (List.mem_cons_self ..))
    have hrest := ih fun e s hm => hb e s (List.mem_cons_of_mem _ (List.mem_cons_of_mem _ hm))
    refine .cons ⟨rfl, rfl, rfl, fun s v hv => ?_⟩ hrest
    obtain ⟨w, hw, hv⟩ := ok_of_bind hv
    split at hv
    · rename_i htrue
      have hw' : w = .boolean true := by
        cases w <;> simp [Value.boolean?] at htrue
        rw [htrue]
      exact .applies rfl ht (hw' ▸ hw) hc hv
    · rename_i hne
      cases eq_of_pure_ok hv
      refine .passes rfl ht hw ?_
      rintro rfl
      exact hne rfl

section
variable {rules : List RowRule} {mode : OutputMode} {f : Frame} {input out : Schema}

abbrev planned (rules : List RowRule) (input : Schema) (f : Frame) (mode : OutputMode) :
    DatapointCheck :=
  ⟨rules, Compile.declaredMeasures input f, mode⟩

theorem mem_reported {m : Component} (hm : m ∈ input.measures) :
    m ∈ (planned rules input f mode).reported input ↔ Retained mode f m := by
  have hdeclared : m.name ∈ Compile.declaredMeasures input f ↔ ∃ e ∈ f, e.2.1 = m.name := by
    rw [Compile.declaredMeasures, List.mem_filter, List.any_eq_true]
    simp only [beq_iff_eq]
    exact and_iff_right (List.mem_map_of_mem hm)
  rw [reported, List.mem_filter, Retained, ← hdeclared]
  simp [hm]

theorem kept_eq_reported_iff (hs : (planned rules input f mode).schema input = .ok out) :
    (input.components.filter fun m => m.isMeasure && out.contains m.name).length =
      ((planned rules input f mode).reported input).length ↔ Clear mode f input := by
  constructor
  · intro hlength m hm hleft hown
    have hsub : ((planned rules input f mode).reported input).Sublist
        (input.measures.filter fun m => out.contains m.name) := by
      have hall : (planned rules input f mode).reported input =
          ((planned rules input f mode).reported input).filter fun m => out.contains m.name := by
        refine (List.filter_eq_self.2 fun m hr => ?_).symm
        exact (contains_iff hs (List.mem_filter.1 hr).1).2 (.inl hr)
      rw [hall]
      exact List.Sublist.filter _ List.filter_sublist
    rw [kept_eq] at hlength
    have hmem : m ∈ input.measures.filter fun m => out.contains m.name :=
      List.mem_filter.2 ⟨hm, (contains_iff hs hm).2 (.inr hown)⟩
    rw [← hsub.eq_of_length hlength.symm] at hmem
    exact hleft ((mem_reported hm).1 hmem)
  · intro hclear
    rw [kept_eq_reported_of hs fun m hm hr => hclear m hm (mt (mem_reported hm).2 hr)]

variable {r : Row} {rule : RowRule} {v : Value}

def reportCells (mode : OutputMode) (input out : Schema) (r : Row) (rule : RowRule) (v : Value) :
    Row :=
  Row.key r input.identifierIndices ++ [.string rule.id] ++
    Row.project r (keptIndices input out) ++ (if mode = .invalid then [] else [v]) ++
    Report.errorCells (v.boolean? == some false) rule.code rule.level

theorem length_shown (mode : OutputMode) (v : Value) :
    (if mode = .invalid then [] else [v]).length = (resultComponents mode).length := by
  unfold resultComponents
  split <;> rfl

theorem length_kept (input out : Schema) (r : Row) :
    (Row.project r (keptIndices input out)).length =
      (input.components.filter fun m => m.isMeasure && out.contains m.name).length := by
  rw [Row.project, List.length_map, keptIndices, Schema.length_indicesFrom]

theorem length_reportCells (hs : (planned rules input f mode).schema input = .ok out) :
    (reportCells mode input out r rule v).length = out.size ↔ Clear mode f input := by
  have hcomps := Schema.components_of_ofComponents hs
  rw [← kept_eq_reported_iff hs, Schema.size, hcomps, reportCells]
  simp only [List.length_append, Schema.length_key, length_kept, length_shown,
    Report.length_errorCells]
  change _ + 1 + _ + _ + _ = _ + 1 + _ + _ + _ ↔ _
  omega

theorem reports_reportCells (hs : (planned rules input f mode).schema input = .ok out)
    {rule' : DatapointRule} {env : Env} (hr : Represents env f rule' rule)
    (hclear : Clear mode f input) :
    Reports mode f input out r rule' v (reportCells mode input out r rule v) := by
  have hcomps := Schema.components_of_ofComponents hs
  have hkept := kept_eq_reported_of hs fun m hm hr => hclear m hm (mt (mem_reported hm).2 hr)
  have hlength : (reportCells mode input out r rule v).length = out.size :=
    (length_reportCells hs).2 hclear
  generalize hrow : reportCells mode input out r rule v = row at hlength ⊢
  have hreads := (Schema.eq_map_read hlength).symm.trans hrow.symm
  rw [hcomps, reportCells] at hreads
  simp only [List.map_append, List.append_assoc] at hreads
  obtain ⟨hids, hreads⟩ := List.append_inj hreads
    (by rw [Schema.length_key, List.length_map])
  obtain ⟨hid, hreads⟩ := List.append_inj hreads rfl
  obtain ⟨hmeasures, hreads⟩ := List.append_inj hreads
    (by rw [length_kept, hkept, List.length_map])
  obtain ⟨hresult, herrors⟩ := List.append_inj hreads (by rw [length_shown, List.length_map])
  rw [Schema.key_eq, Schema.identifierNames, List.map_map] at hids
  rw [Row.project, keptIndices, Schema.cells_indices, hkept] at hmeasures
  refine ⟨List.map_inj_left.1 hids, ?_, fun m hm hret => ?_, fun hmode => ?_, ?_⟩
  · rw [← hr.id]
    exact List.head_eq_of_cons_eq hid
  · exact List.map_inj_left.1 hmeasures m ((mem_reported hm).2 hret)
  · rw [resultComponents, if_neg hmode, if_neg hmode] at hresult
    exact List.head_eq_of_cons_eq hresult
  · rw [← hr.code, ← hr.level]
    exact herrors

theorem reports_iff {mode : OutputMode} {v : Value} :
    mode.reports v.boolean? = true ↔ Reported mode v := by
  have hfalse : v.boolean? = some false ↔ v = .boolean false := by
    cases v <;> simp [Value.boolean?]
  unfold OutputMode.reports Reported
  rw [Bool.or_eq_true_iff, beq_iff_eq, hfalse, bne_iff_ne, ne_eq, imp_iff_not_or]

theorem contributes_reportRule {env : Env}
    (hs : (planned rules input f mode).schema input = .ok out) {rule' : DatapointRule}
    (hr : Represents env f rule' rule) {outer : Scope} {row : Option Row}
    (h : (planned rules input f mode).reportRule input (keptIndices input out)
      (Scope.ofRow input r outer) r rule = .ok row) :
    Contributes env f outer mode input out (r, rule') row.toList := by
  obtain ⟨v, hv, h⟩ := ok_of_bind h
  refine ⟨v, hr.judges _ v hv, ?_⟩
  split at h
  · rename_i hreports
    cases eq_of_pure_ok h
    refine .inr ⟨reports_iff.1 hreports, _, rfl, length_reportCells hs, ?_⟩
    exact reports_reportCells hs hr
  · rename_i hreports
    cases eq_of_pure_ok h
    exact .inl ⟨mt reports_iff.2 hreports, rfl⟩

end

theorem Contributes.length_eq {env : Env} {f : Frame} {outer : Scope} {mode : OutputMode}
    {input out : Schema} {p : Row × DatapointRule} {part : List Row} (hmode : mode ≠ .invalid)
    (h : Contributes env f outer mode input out p part) : part.length = 1 := by
  obtain ⟨v, _, ⟨hnot, _⟩ | ⟨_, row, rfl, _⟩⟩ := h
  · exact absurd (fun hm => absurd hm hmode) hnot
  · rfl

end DatapointCheck

namespace Compile

/-- What a check against a datapoint ruleset evaluates to, whenever it compiles and evaluates: for
    each row of the source, in order, and each rule, in order, the report on the rule if the mode
    calls for it. Reports are as long as the result has components, and have the right values under
    its names, exactly if no measure that is left out has a name of the report's own. -/
theorem rows_of_checkDatapoint {env : Env} {depth : Nat} {f : Frame} {p : Position} {e : Expr}
    {ruleset : String} {components : List String} {mode : OutputMode} {plan : Plan}
    (h : compileWithin env depth f (.checkDatapoint p e ruleset components mode) =
      .ok (.dataset plan)) {today : Date} {out : Dataset}
    (he : plan.eval env.context today = .ok out) :
    ∃ source d rs inner, Compiles env f e (.dataset source) ∧
      source.eval env.context today = .ok d ∧ env.datapointRuleset ruleset = .ok rs ∧
      rulesetFrame rs source components = .ok inner ∧
      Joined (DatapointCheck.Contributes env inner (env.context.scope today) mode d.schema
        out.schema) (d.rows ×ˢ rs.rules) out.rows ∧
      (mode ≠ .invalid → out.rows.length = d.rows.length * rs.rules.length) := by
  cases compileWithin_compiles h with
  | checkDatapoint hsource hrs hframe hrules hbodies hplan =>
    rename_i source rs inner bodies rules
    obtain ⟨_, _, rfl⟩ := checkDatapointPlan_ok hplan
    obtain ⟨d, hd, he⟩ := ok_of_bind he
    have hagrees : d.schema = source.schema := hsource.agrees today d hd
    rw [← hagrees] at he
    obtain ⟨s, hs, he⟩ := ok_of_bind he
    obtain ⟨rows, hrows, he⟩ := ok_of_bind he
    cases eq_of_pure_ok he
    have hpairs := forall₂_product (DatapointCheck.represents_of_rules hrules hbodies) d.rows
    have hjoined : Joined (DatapointCheck.Contributes env inner (env.context.scope today) mode
        d.schema s) (d.rows ×ˢ rs.rules) rows := by
      refine (DatapointCheck.reportRows_joined hrows).of_forall₂ hpairs ?_
      rintro ⟨_, rule'⟩ ⟨r, rule⟩ _ ⟨rfl, hr⟩ ⟨row, hrow, rfl⟩
      exact DatapointCheck.contributes_reportRule (liftModel_ok hs) hr hrow
    refine ⟨source, d, rs, inner, hsource, hd, hrs, hframe, hjoined, fun hmode => ?_⟩
    rw [← List.length_product]
    exact hjoined.length_eq fun _ _ hpart => hpart.length_eq hmode

def sixRules : DatapointRuleset where
  name := "six"
  domain := .components
  vars := [⟨"m", none⟩, ⟨"k", none⟩]
  rules := [⟨"six_1", some (.binary {} (.compare .ne) (.name {} "k") (.literal {} (.integer 1))),
    .binary {} (.compare .gt) (.name {} "m") (.literal {} (.integer 6)), some "low", some 2⟩]

def sixEnv (d : Dataset) : Env :=
  ⟨⟨[("D", .dataset d), ("six", .datapointRuleset sixRules)]⟩, {}⟩

def sixCheck (mode : OutputMode) : Expr := .checkDatapoint {} (.name {} "D") "six" [] mode

set_option maxRecDepth 4000 in
theorem rows_of_checkDatapoint_tally :
    ∃ plan out, compile (sixEnv tally) (sixCheck .all) = .ok (.dataset plan) ∧
      plan.eval (sixEnv tally).context .epoch = .ok out ∧
      out.rows = [[.integer 1, .string "six_1", .integer 5, .boolean true, .null, .null],
        [.integer 2, .string "six_1", .integer 7, .boolean true, .null, .null]] ∧
      ∃ source d rs inner, Compiles (sixEnv tally) [] (.name {} "D") (.dataset source) ∧
        source.eval (sixEnv tally).context .epoch = .ok d ∧
        (sixEnv tally).datapointRuleset "six" = .ok rs ∧
        rulesetFrame rs source [] = .ok inner ∧
        Joined (DatapointCheck.Contributes (sixEnv tally) inner
          ((sixEnv tally).context.scope .epoch) .all d.schema out.schema)
          (d.rows ×ˢ rs.rules) out.rows ∧
        (OutputMode.all ≠ .invalid → out.rows.length = d.rows.length * rs.rules.length) := by
  have hrun : ∃ plan out, compile (sixEnv tally) (sixCheck .all) = .ok (.dataset plan) ∧
      plan.eval (sixEnv tally).context .epoch = .ok out ∧
      out.rows = [[.integer 1, .string "six_1", .integer 5, .boolean true, .null, .null],
        [.integer 2, .string "six_1", .integer 7, .boolean true, .null, .null]] :=
    ⟨_, _, rfl, rfl, rfl⟩
  obtain ⟨plan, out, hplan, hout, hrows⟩ := hrun
  exact ⟨plan, out, hplan, hout, hrows, rows_of_checkDatapoint hplan hout⟩

def coded : Dataset where
  schema :=
    ⟨[.identifier "k" .integer, .measure "m" .integer, .measure "errorcode" .string], by decide,
      by decide⟩
  rows := [[.integer 1, .integer 5, .string "x"]]

set_option maxRecDepth 4000 in
/-- Its value is in the report although the measure is left out, and what follows is moved by one
    place: under the name of the result there is a text. -/
theorem rows_of_checkDatapoint_coded :
    ∃ plan out, compile (sixEnv coded) (sixCheck .all) = .ok (.dataset plan) ∧
      plan.eval (sixEnv coded).context .epoch = .ok out ∧
      ∃ row ∈ out.rows, row.length ≠ out.schema.size ∧
        out.schema.read row Report.resultName = .string "x" :=
  ⟨_, _, rfl, rfl, _, List.mem_singleton.2 rfl, by decide, rfl⟩

end Compile
end Tabular
