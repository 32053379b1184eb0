import Tabular.Proofs.Compile.Plans
import Tabular.Proofs.Safety.Rows

set_option autoImplicit false

namespace Tabular

def Scalar.Gives (reads : String → ScalarType → Prop) (e : Scalar) (t : ScalarType) : Prop :=
  e.Typed reads ∧ (e.type? = none ∨ e.type? = some t)

theorem Scalar.Gives.safe_eval {reads : String → ScalarType → Prop} {e : Scalar} {t : ScalarType}
    (h : e.Gives reads t) {s : Scope} (hs : Covers s reads) :
    Safe (fun v => v.conforms t = true) (e.eval s) :=
  (h.1.safe_eval hs).imp fun _ _ hv => hv.conforms h.2

theorem Schema.soleMeasure?_ok {s : Schema} {m : Component} (h : s.soleMeasure? = some m) :
    s.measures = [m] ∧ m ∈ s.components := by
  have hm : s.measures = [m] := by
    unfold Schema.soleMeasure? at h
    split at h
    · rename_i heq
      cases h
      exact heq
    · cases h
  have hmem : m ∈ s.measures := by
    rw [hm]
    exact List.mem_singleton.2 rfl
  exact ⟨hm, List.mem_of_mem_filter hmem⟩

theorem Report.length_errorCells (failed : Bool) (code : Option String) (level : Option Int64) :
    (errorCells failed code level).length = errors.length := by
  cases failed <;> rfl

theorem Report.errors_conform (failed : Bool) (code : Option String) (level : Option Int64) :
    Conform Report.errors (Report.errorCells failed code level) := by
  unfold Report.errorCells
  split
  · cases code <;> cases level <;> exact .cons rfl (.cons rfl .nil)
  · exact .cons rfl (.cons rfl .nil)

namespace Check

theorem soleMeasure_of {s : Schema} {name expected : String} {accept : ScalarType → Bool}
    {m : Component} (h : s.soleMeasure? = some m) (ha : accept m.type = true) :
    soleMeasure s name accept expected = .ok m := by
  rw [soleMeasure, h]
  exact if_pos ha

theorem exists_imbalances {condition : Schema} {imbalance : Option Dataset}
    {type : Option ScalarType} (ht : imbalanceType imbalance = .ok type)
    (hi : ∀ d, imbalance = some d →
      d.Conforms ∧ ∀ n ∈ condition.identifierNames, n ∈ d.schema.names) :
    ∃ others, imbalances condition imbalance = .ok others ∧
      ∀ p ∈ others, p.2.conforms (type.getD .number) = true := by
  cases imbalance with
  | none => exact ⟨[], rfl, fun _ hp => absurd hp List.not_mem_nil⟩
  | some d =>
    obtain ⟨hd, hids⟩ := hi d rfl
    obtain ⟨m, hm, ht⟩ := ok_of_bind ht
    cases eq_of_pure_ok ht
    obtain ⟨_, hmem⟩ := Schema.soleMeasure?_ok (Check.soleMeasure_ok hm).1
    obtain ⟨column, hget⟩ := List.getElem?_of_mem hmem
    have hx := Schema.indexOf?_of_getElem? hget
    obtain ⟨ids, hp⟩ := Schema.exists_positions hids
    refine ⟨d.rows.reverse.map fun r => (Row.key r ids, Row.cell r column), ?_, fun p hmem' => ?_⟩
    · unfold imbalances
      dsimp only
      rw [hm]
      change liftModel (d.schema.position m.name) >>= _ = _
      rw [Schema.position_ok.2 hx]
      change liftModel (d.schema.positions condition.identifierNames) >>= _ = _
      rw [hp]
      rfl
    · obtain ⟨r, hr, rfl⟩ := List.mem_map.1 hmem'
      have hv := (hd r (List.mem_reverse.1 hr)).read hmem
      rwa [Schema.read_of_indexOf? hx] at hv

variable {c : Check} {d : Dataset}

theorem safe_errorCells {reads : String → ScalarType → Prop} (hcode : c.code.Gives reads .string)
    (hlevel : c.level.Gives reads .integer) {scope : Scope} (hs : Scalar.Covers scope reads)
    (failed : Bool) : Safe (Conform Report.errors) (c.errorCells scope failed) := by
  unfold errorCells
  split
  · refine (hcode.safe_eval hs).bind fun code hc => ?_
    exact (hlevel.safe_eval hs).bind fun level hl => .cons hc (.cons hl .nil)
  · exact .cons rfl (.cons rfl .nil)

theorem find_conforms {t : ScalarType} {others : Keyed Value}
    (ho : ∀ p ∈ others, p.2.conforms t = true) (key : Key) :
    ((others.find? key).getD .null).conforms t = true := by
  unfold Keyed.find?
  cases hf : List.find? (fun p => Key.same p.1 key) others with
  | none => exact Value.conforms_null t
  | some p => exact ho p (List.mem_of_find?_eq_some hf)

theorem safe_reportRows {s : Schema} {column : Nat} {t : ScalarType} {others : Keyed Value}
    (hcode : c.code.Gives s.Declares .string) (hlevel : c.level.Gives s.Declares .integer)
    (ho : ∀ p ∈ others, p.2.conforms t = true) (outer : Scope) {rows : List Row}
    (hr : ∀ r ∈ rows, s.Admits r ∧ (Row.cell r column).conforms .boolean = true) :
    Safe (fun out => ∀ r ∈ out,
        Conform (s.identifiers ++ [Report.result, Report.imbalance t] ++ Report.errors) r)
      (c.reportRows s column others outer rows) := by
  induction rows with
  | nil => exact fun _ hq => absurd hq List.not_mem_nil
  | cons r rest ih =>
    obtain ⟨⟨hadmits, hholds⟩, hrest⟩ := List.forall_mem_cons.1 hr
    have hrow : Safe (fun o => ∀ q, o = some q →
        Conform (s.identifiers ++ [Report.result, Report.imbalance t] ++ Report.errors) q)
        (c.reportRow s column others outer r) := by
      unfold reportRow
      dsimp only
      split
      · refine (safe_errorCells hcode hlevel (Scope.covers_ofRow hadmits outer) _).bind
          fun errors he => ?_
        intro q hq
        cases hq
        have hpair : Conform [Report.result, Report.imbalance t]
            [Row.cell r column, (others.find? (Row.key r s.identifierIndices)).getD .null] :=
          .cons hholds (.cons (find_conforms ho _) .nil)
        exact (hadmits.key.append hpair).append he
      · exact nofun
    rw [reportRows]
    refine hrow.bind fun row hq => (ih hrest).bind fun out hout => ?_
    intro q hm
    rcases List.mem_append.1 hm with hm | hm
    · exact hq q (Option.mem_toList.1 hm)
    · exact hout q hm

theorem safe_evaluate {m : Component} (hd : d.Conforms) (hm : d.schema.soleMeasure? = some m)
    (hb : m.type = .boolean) (hcode : c.code.Gives d.schema.Declares .string)
    (hlevel : c.level.Gives d.schema.Declares .integer) {imbalance : Option Dataset}
    {type : Option ScalarType} (ht : imbalanceType imbalance = .ok type)
    (hi : ∀ e, imbalance = some e →
      e.Conforms ∧ ∀ n ∈ d.schema.identifierNames, n ∈ e.schema.names)
    {s : Schema} (hs : schema d.schema type = .ok s) (outer : Scope) :
    Safe Dataset.Conforms (c.evaluate outer d imbalance) := by
  obtain ⟨hmeasures, hmem⟩ := Schema.soleMeasure?_ok hm
  obtain ⟨column, hget⟩ := List.getElem?_of_mem hmem
  have hx := Schema.indexOf?_of_getElem? hget
  have hcolumn : conditionColumn d.schema = .ok column := by
    rw [conditionColumn, hmeasures]
    dsimp only
    rw [Schema.position_ok.2 hx]
    rfl
  obtain ⟨others, ho, hvalues⟩ := exists_imbalances ht hi
  have hrows : ∀ r ∈ d.rows,
      d.schema.Admits r ∧ (Row.cell r column).conforms .boolean = true := by
    intro r hr
    have hv := (hd r hr).read hmem
    rw [Schema.read_of_indexOf? hx, hb] at hv
    exact ⟨hd r hr, hv⟩
  unfold evaluate
  rw [ht]
  change Safe Dataset.Conforms (liftModel (schema d.schema type) >>= _)
  rw [hs]
  change Safe Dataset.Conforms (c.rows outer d imbalance >>= _)
  unfold rows
  rw [hcolumn, ho]
  refine (safe_reportRows hcode hlevel hvalues outer hrows).bind fun rows hout r hr => ?_
  change Conform s.components r
  rw [Schema.components_of_ofComponents hs]
  exact hout r hr

end Check

def RowRule.Typed (reads : String → ScalarType → Prop) (r : RowRule) : Prop :=
  (∀ a, r.antecedent = some a → a.Gives reads .boolean) ∧ r.consequent.Gives reads .boolean

theorem RowRule.Typed.safe_evaluate {reads : String → ScalarType → Prop} {r : RowRule}
    (h : r.Typed reads) {s : Scope} (hs : Scalar.Covers s reads) :
    Safe (fun v => v.conforms .boolean = true) (r.evaluate s) := by
  unfold RowRule.evaluate
  split
  · exact h.2.safe_eval hs
  · rename_i a ha
    refine ((h.1 a ha).safe_eval hs).bind fun v _ => ?_
    split
    · exact h.2.safe_eval hs
    · exact rfl

namespace DatapointCheck

def reservedNames : List String :=
  [Report.ruleName, Report.resultName, Report.codeName, Report.levelName]

def ownNames (mode : OutputMode) : List String :=
  Report.ruleName :: (resultComponents mode ++ Report.errors).map (·.name)

theorem ownNames_subset (mode : OutputMode) : ownNames mode ⊆ reservedNames := by
  cases mode <;> decide

variable {c : DatapointCheck} {input out : Schema}

/-- A measure of the input has a name of the result if it is reported or is called as one of the
    report's own components. -/
theorem contains_iff (hs : c.schema input = .ok out) {m : Component} (hm : m ∈ input.measures) :
    out.contains m.name = true ↔ m ∈ c.reported input ∨ m.name ∈ ownNames c.mode := by
  have hcomps := Schema.components_of_ofComponents hs
  have hin : ∀ e ∈ input.measures, e ∈ input.components := fun e he => List.mem_of_mem_filter he
  have hown : ∀ {e : Component}, e ∈ resultComponents c.mode ++ Report.errors → e.name = m.name →
      m.name ∈ ownNames c.mode := by
    intro e he hname
    rw [← hname]
    exact List.mem_cons_of_mem _ (List.mem_map_of_mem he)
  rw [Schema.contains_iff, Schema.mem_names, hcomps]
  simp only [List.mem_append, or_assoc]
  constructor
  · rintro ⟨e, he | he | he | he | he, hname⟩
    · have heq := Schema.eq_of_name_eq (List.mem_of_mem_filter he) (hin m hm) hname
      have hid := input.identifiers_isIdentifier e he
      rw [heq, Component.not_isIdentifier_of_isMeasure (List.mem_filter.1 hm).2] at hid
      cases hid
    · cases List.mem_singleton.1 he
      rw [← hname]
      exact .inr (List.mem_cons_self ..)
    · rw [← Schema.eq_of_name_eq (hin e (List.mem_of_mem_filter he)) (hin m hm) hname]
      exact .inl he
    · exact .inr (hown (List.mem_append_left _ he) hname)
    · exact .inr (hown (List.mem_append_right _ he) hname)
  · rintro (hr | hr)
    · exact ⟨m, .inr (.inr (.inl hr)), rfl⟩
    · rcases List.mem_cons.1 hr with hr | hr
      · exact ⟨Report.rule, .inr (.inl (List.mem_singleton.2 rfl)), hr.symm⟩
      · obtain ⟨e, he, hname⟩ := List.mem_map.1 hr
        rcases List.mem_append.1 he with he | he
        · exact ⟨e, .inr (.inr (.inr (.inl he))), hname⟩
        · exact ⟨e, .inr (.inr (.inr (.inr he))), hname⟩

theorem kept_eq (input out : Schema) :
    (input.components.filter fun m => m.isMeasure && out.contains m.name) =
      input.measures.filter fun m => out.contains m.name := by
  rw [Schema.measures, List.filter_filter]
  exact List.filter_congr fun m _ => Bool.and_comm _ _

theorem kept_eq_reported_of (hs : c.schema input = .ok out)
    (hfree : ∀ m ∈ input.measures, m ∉ c.reported input → m.name ∉ ownNames c.mode) :
    (input.components.filter fun m => m.isMeasure && out.contains m.name) = c.reported input := by
  rw [kept_eq]
  refine List.filter_congr fun m hm => ?_
  rw [Bool.eq_iff_iff, contains_iff hs hm]
  have hreported : m ∈ c.reported input ↔
      (c.mode == .allMeasures || c.measures.contains m.name) = true :=
    ⟨fun h => (List.mem_filter.1 h).2, fun h => List.mem_filter.2 ⟨hm, h⟩⟩
  rw [← hreported]
  exact ⟨fun h => h.elim id fun hn => by_contra fun hr => hfree m hm hr hn, .inl⟩

theorem kept_eq_reported (hs : c.schema input = .ok out)
    (hfree : ∀ m ∈ input.measures, m.name ∉ reservedNames) :
    (input.components.filter fun m => m.isMeasure && out.contains m.name) = c.reported input :=
  kept_eq_reported_of hs fun m hm _ hn => hfree m hm (ownNames_subset c.mode hn)

def reportComponents (c : DatapointCheck) (input : Schema) : List Component :=
  input.identifiers ++ [Report.rule] ++ c.reported input ++ resultComponents c.mode ++
    Report.errors

theorem safe_reportRule {kept : List Nat} {r : Row} (hkey : Conform input.identifiers
      (Row.key r input.identifierIndices))
    (hkept : Conform (c.reported input) (Row.project r kept)) {reads : String → ScalarType → Prop}
    {rule : RowRule} (hrule : rule.Typed reads) {scope : Scope}
    (hs : Scalar.Covers scope reads) :
    Safe (fun o => ∀ q, o = some q → Conform (c.reportComponents input) q)
      (c.reportRule input kept scope r rule) := by
  unfold reportRule
  refine (hrule.safe_evaluate hs).bind fun result hresult => ?_
  split
  · intro q hq
    cases hq
    have hshown : Conform (resultComponents c.mode)
        (if c.mode = .invalid then [] else [result]) := by
      unfold resultComponents
      split
      · exact .nil
      · exact conform_singleton hresult
    have hrule : Conform [Report.rule] [.string rule.id] := conform_singleton rfl
    exact (((hkey.append hrule).append hkept).append hshown).append
      (Report.errors_conform _ rule.code rule.level)
  · exact nofun

theorem safe_reportRules {kept : List Nat} {r : Row} (hkey : Conform input.identifiers
      (Row.key r input.identifierIndices))
    (hkept : Conform (c.reported input) (Row.project r kept)) {reads : String → ScalarType → Prop}
    {rules : List RowRule} (hrules : ∀ rule ∈ rules, rule.Typed reads) {scope : Scope}
    (hs : Scalar.Covers scope reads) :
    Safe (fun out => ∀ q ∈ out, Conform (c.reportComponents input) q)
      (c.reportRules input kept scope r rules) := by
  induction rules with
  | nil => exact fun _ hq => absurd hq List.not_mem_nil
  | cons rule rest ih =>
    obtain ⟨hrule, hrest⟩ := List.forall_mem_cons.1 hrules
    rw [reportRules]
    refine (safe_reportRule hkey hkept hrule hs).bind fun row hq => ?_
    refine (ih hrest).bind fun rows hrows => List.forall_mem_append.2 ⟨fun q hm => ?_, hrows⟩
    exact hq q (Option.mem_toList.1 hm)

theorem safe_reportRows {kept : List Nat} (hrules : ∀ rule ∈ c.rules, rule.Typed input.Declares)
    (outer : Scope) {rows : List Row}
    (hr : ∀ r ∈ rows, input.Admits r ∧ Conform (c.reported input) (Row.project r kept)) :
    Safe (fun out => ∀ q ∈ out, Conform (c.reportComponents input) q)
      (c.reportRows input kept outer rows) := by
  induction rows with
  | nil => exact fun _ hq => absurd hq List.not_mem_nil
  | cons r rest ih =>
    obtain ⟨⟨hadmits, hkept⟩, hrest⟩ := List.forall_mem_cons.1 hr
    rw [reportRows]
    have hreports := safe_reportRules hadmits.key hkept hrules (Scope.covers_ofRow hadmits outer)
    refine hreports.bind fun reports hq => ?_
    exact (ih hrest).bind fun more hmore => List.forall_mem_append.2 ⟨hq, hmore⟩

theorem safe_evaluate {d : Dataset} (hd : d.Conforms) (hs : c.schema d.schema = .ok out)
    (hfree : ∀ m ∈ d.schema.measures, m.name ∉ reservedNames)
    (hrules : ∀ rule ∈ c.rules, rule.Typed d.schema.Declares) (outer : Scope) :
    Safe Dataset.Conforms (c.evaluate outer d) := by
  have hkept : ∀ r ∈ d.rows, d.schema.Admits r ∧
      Conform (c.reported d.schema) (Row.project r (keptIndices d.schema out)) := by
    intro r hr
    have hcells := (hd r hr).cells fun m => m.isMeasure && out.contains m.name
    rw [kept_eq_reported hs hfree] at hcells
    exact ⟨hd r hr, hcells⟩
  unfold evaluate
  rw [hs]
  refine (safe_reportRows hrules outer hkept).bind fun rows hrows r hr => ?_
  change Conform out.components r
  rw [Schema.components_of_ofComponents hs]
  exact hrows r hr

end DatapointCheck

namespace HierarchyCheck

theorem safe_combine {t : ScalarType} (ht : t.isNumeric = true) (sign : Sign) {a b : Value}
    (ha : a.conforms t = true) (hb : b.conforms t = true) :
    Safe (fun v => v.conforms t = true) (combine sign a b) := by
  rcases Value.conforms_iff.1 ha with rfl | ha
  · cases b <;> exact Value.conforms_null t
  · rcases Value.conforms_iff.1 hb with rfl | hb
    · cases a <;> exact Value.conforms_null t
    · cases t with
      | integer =>
        obtain ⟨i, rfl⟩ := Value.integer_of_type ha
        obtain ⟨j, rfl⟩ := Value.integer_of_type hb
        unfold combine
        dsimp only
        split
        · exact rfl
        · trivial
      | number =>
        cases a <;> cases ha
        cases b <;> cases hb
        exact rfl
      | _ => cases ht

theorem safe_total {t : ScalarType} (ht : t.isNumeric = true) {missing acc : Value}
    (hm : missing.conforms t = true) (ha : acc.conforms t = true)
    {items : List (Sign × Option Value)}
    (hi : ∀ p ∈ items, ∀ v, p.2 = some v → v.conforms t = true) :
    Safe (fun v => v.conforms t = true) (total missing acc items) := by
  induction items generalizing acc with
  | nil => exact ha
  | cons p rest ih =>
    obtain ⟨sign, v⟩ := p
    obtain ⟨hv, hrest⟩ := List.forall_mem_cons.1 hi
    rw [total]
    refine (safe_combine ht sign ha ?_).bind fun acc ha => ih ha hrest
    cases v with
    | none => exact hm
    | some v => exact hv v rfl

theorem zero_conforms {t : ScalarType} (ht : t.isNumeric = true) :
    (Value.zero t).conforms t = true := by
  cases t <;> first | rfl | cases ht

theorem missingLeft_conforms {t : ScalarType} (ht : t.isNumeric = true) (o : HierarchyOptions) :
    (missingLeft o t).conforms t = true := by
  unfold missingLeft
  split
  · exact zero_conforms ht
  · exact Value.conforms_null t

theorem missingRight_conforms {t : ScalarType} (ht : t.isNumeric = true) (o : HierarchyOptions) :
    (missingRight o t).conforms t = true := by
  unfold missingRight
  split
  · exact zero_conforms ht
  · exact missingLeft_conforms ht o

def Measured (t : ScalarType) (r : HierarchyResult) : Prop :=
  r.lhs.conforms t = true ∧ r.imbalance.conforms t = true

theorem safe_evaluateRule {t : ScalarType} (ht : t.isNumeric = true) (o : HierarchyOptions)
    {value : String → Option Value} (hv : ∀ code v, value code = some v → v.conforms t = true)
    (rule : HierarchyRule) :
    Safe (fun r => ∀ result, r = some result → Measured t result)
      (evaluateRule o t value rule) := by
  unfold evaluateRule
  dsimp only
  split
  · have hleft : ((value rule.lhs).getD (missingLeft o t)).conforms t = true := by
      cases hl : value rule.lhs with
      | none => exact missingLeft_conforms ht o
      | some v => exact hv _ v hl
    have hitems : ∀ p ∈ rule.rhs.map fun i => (i.sign, value i.code),
        ∀ v, p.2 = some v → v.conforms t = true := by
      intro p hp v hpv
      obtain ⟨i, _, rfl⟩ := List.mem_map.1 hp
      exact hv _ v hpv
    have hright := safe_total ht (missingRight_conforms ht o) (zero_conforms ht) hitems
    refine hright.bind fun right hr => ?_
    refine (safe_combine ht .minus hleft hr).bind fun imbalance hi => ?_
    intro result he
    cases he
    exact ⟨hleft, hi⟩
  · intro result he
    cases he

variable {c : HierarchyCheck} {input : Schema} {k : Columns}

def reportComponents (c : HierarchyCheck) (input : Schema) : List Component :=
  c.keptIdentifiers input ++ [Report.rule] ++ c.measureComponents ++ c.resultComponents ++
    [Report.imbalance c.target.type] ++ Report.errors

theorem identifierCells_conform (hk : c.columns input = .ok k)
    (hcode : c.options.keepComponent = true →
      ∀ i ∈ input.identifiers, i.name = c.target.component → i.type = .string)
    {first : Row} (hf : ∀ i ∈ input.components, (input.read first i.name).conforms i.type = true)
    (rule : HierarchyRule) :
    Conform (c.keptIdentifiers input) (c.identifierCells input k first rule) := by
  rw [identifierCells_eq hk]
  refine conform_map fun i hi => ?_
  obtain ⟨hi, hkeep⟩ := List.mem_filter.1 hi
  split
  · rename_i hn
    have hkept : c.options.keepComponent = true := by simpa [hn] using hkeep
    rw [hcode hkept i hi hn]
    exact rfl
  · exact hf i (List.mem_of_mem_filter hi)

theorem reportRow_conforms (hk : c.columns input = .ok k)
    (hcode : c.options.keepComponent = true →
      ∀ i ∈ input.identifiers, i.name = c.target.component → i.type = .string)
    {first : Row} (hf : ∀ i ∈ input.components, (input.read first i.name).conforms i.type = true)
    (rule : HierarchyRule) {result : HierarchyResult} (hr : Measured c.target.type result) :
    Conform (c.reportComponents input) (c.reportRow input k first rule result) := by
  have hrule : Conform [Report.rule] [.string rule.id] := conform_singleton rfl
  have hmeasure : Conform c.measureComponents
      (if c.options.output = .all then [] else [result.lhs]) := by
    unfold measureComponents
    split
    · exact .nil
    · exact conform_singleton hr.1
  have hresult : Conform c.resultComponents
      (if c.options.output = .invalid then [] else [Value.ofOption .boolean result.holds]) := by
    unfold resultComponents
    split
    · exact .nil
    · refine conform_singleton ?_
      cases result.holds <;> rfl
  have himbalance : Conform [Report.imbalance c.target.type] [result.imbalance] :=
    conform_singleton hr.2
  exact (((((identifierCells_conform hk hcode hf rule).append hrule).append hmeasure).append
    hresult).append himbalance).append (Report.errors_conform _ rule.code rule.level)

theorem codeValue_conforms {t : ScalarType} {members : List Row}
    (hm : ∀ r ∈ members, (Row.cell r k.measureColumn).conforms t = true) :
    ∀ code v, codeValue k members code = some v → v.conforms t = true := by
  intro code v hv
  obtain ⟨r, hr, rfl⟩ := Option.map_eq_some_iff.1 hv
  exact hm r (List.mem_reverse.1 (List.mem_of_find?_eq_some hr))

theorem read_headD_conforms {members : List Row} (hm : ∀ r ∈ members, input.Admits r) :
    ∀ i ∈ input.components,
      (input.read (members.headD []) i.name).conforms i.type = true := by
  intro i hi
  cases members with
  | nil =>
    unfold Schema.read
    split <;> exact Value.conforms_null _
  | cons r _ => exact (hm r (List.mem_cons_self ..)).read hi

theorem groups_conform {d : Dataset} (hd : d.Conforms) (hk : c.columns d.schema = .ok k)
    (hm : d.schema.Declares c.target.measure c.target.type) :
    ∀ g ∈ groups k d.rows, ∀ r ∈ g.2, d.schema.Admits r ∧
      (Row.cell r k.measureColumn).conforms c.target.type = true := by
  obtain ⟨m, hmem, hname, htype⟩ := hm
  intro g hg r hr
  have hgrouped := Keyed.grouped_group (fun r => Row.key r k.shared)
    (d.rows.filter fun r => !(Row.cell r k.codeColumn).isNull)
  have hadmits := hd r (List.mem_of_mem_filter (hgrouped.members g hg r hr))
  have hv := hadmits.read hmem
  rw [hname, Schema.read_of_indexOf? (columns_ok hk).2.1, htype] at hv
  exact ⟨hadmits, hv⟩

theorem safe_reportGroup (ht : c.target.type.isNumeric = true) (hk : c.columns input = .ok k)
    (hcode : c.options.keepComponent = true →
      ∀ i ∈ input.identifiers, i.name = c.target.component → i.type = .string)
    {members : List Row} (hm : ∀ r ∈ members, input.Admits r ∧
      (Row.cell r k.measureColumn).conforms c.target.type = true) (rules : List HierarchyRule) :
    Safe (fun out => ∀ q ∈ out, Conform (c.reportComponents input) q)
      (c.reportGroup input k members rules) := by
  have hvalue := codeValue_conforms fun r hr => (hm r hr).2
  have hfirst := read_headD_conforms fun r hr => (hm r hr).1
  induction rules with
  | nil => exact fun _ hq => absurd hq List.not_mem_nil
  | cons rule rest ih =>
    have hreport : Safe (fun o => ∀ q, o = some q → Conform (c.reportComponents input) q)
        (c.reportRule input k members rule) := by
      unfold reportRule
      refine (safe_evaluateRule ht c.options hvalue rule).bind fun result hr => ?_
      split
      · exact nofun
      · split
        · intro q hq
          cases hq
          exact reportRow_conforms hk hcode hfirst rule (hr _ rfl)
        · exact nofun
    rw [reportGroup]
    refine hreport.bind fun row hq => ih.bind fun rows hrows => ?_
    exact List.forall_mem_append.2 ⟨fun q hm => hq q (Option.mem_toList.1 hm), hrows⟩

theorem safe_reportGroups (ht : c.target.type.isNumeric = true) (hk : c.columns input = .ok k)
    (hcode : c.options.keepComponent = true →
      ∀ i ∈ input.identifiers, i.name = c.target.component → i.type = .string)
    {groups : Keyed (List Row)} (hg : ∀ g ∈ groups, ∀ r ∈ g.2, input.Admits r ∧
      (Row.cell r k.measureColumn).conforms c.target.type = true) :
    Safe (fun out => ∀ q ∈ out, Conform (c.reportComponents input) q)
      (c.reportGroups input k groups) := by
  induction groups with
  | nil => exact fun _ hq => absurd hq List.not_mem_nil
  | cons g rest ih =>
    obtain ⟨hg1, hrest⟩ := List.forall_mem_cons.1 hg
    rw [reportGroups]
    refine (safe_reportGroup ht hk hcode hg1 c.rules).bind fun reports hq => ?_
    exact (ih hrest).bind fun rows hrows => List.forall_mem_append.2 ⟨hq, hrows⟩

theorem exists_columns (hm : c.target.measure ∈ input.names)
    (hc : c.target.component ∈ input.names) : ∃ k, c.columns input = .ok k := by
  obtain ⟨i, hi⟩ := Schema.exists_indexOf? hc
  obtain ⟨j, hj⟩ := Schema.exists_indexOf? hm
  refine ⟨⟨i, j, input.identifierIndices.filter (· != i)⟩, ?_⟩
  rw [columns, Schema.position_ok.2 hi]
  change (input.position c.target.measure >>= _) = _
  rw [Schema.position_ok.2 hj]
  rfl

theorem safe_evaluate {d : Dataset} {out : Schema} (hd : d.Conforms)
    (hs : c.schema d.schema = .ok out) (ht : c.target.type.isNumeric = true)
    (hm : d.schema.Declares c.target.measure c.target.type)
    (hc : c.target.component ∈ d.schema.names)
    (hcode : c.options.keepComponent = true →
      ∀ i ∈ d.schema.identifiers, i.name = c.target.component → i.type = .string) :
    Safe Dataset.Conforms (c.evaluate d) := by
  have hmeasure : c.target.measure ∈ d.schema.names := by
    obtain ⟨m, hmem, hname, _⟩ := hm
    exact Schema.mem_names.2 ⟨m, hmem, hname⟩
  obtain ⟨k, hk⟩ := exists_columns hmeasure hc
  unfold evaluate
  rw [hs]
  change Safe Dataset.Conforms (c.rows d >>= _)
  unfold rows
  rw [hk]
  refine (safe_reportGroups ht hk hcode (groups_conform hd hk hm)).bind fun rows hrows r hr => ?_
  change Conform out.components r
  rw [Schema.components_of_ofComponents hs]
  exact hrows r hr

end HierarchyCheck
end Tabular
