import Tabular.Proofs.Joining.KeySets
import Tabular.Proofs.Safety.Lift

set_option autoImplicit false

namespace Tabular

/-- The row of the dataset that has the key under the names. -/
def Dataset.rowAt (d : Dataset) (names : List String) (key : Key) : Row :=
  (d.rows.find? fun q => Key.same (names.map (d.schema.read q)) key).getD []

/-- What an operand contributes under a key. -/
def Operand.partAt (names : List String) (key : Key) : Operand → Value ⊕ Row
  | .scalar v => .inl v
  | .dataset d => .inr (d.rowAt names key)

/-- The value of an operand under a key, where a measure is concerned. -/
def Operand.valueAt (names : List String) (key : Key) (measure : String) : Operand → Value
  | .scalar v => v
  | .dataset d => d.schema.read (d.rowAt names key) measure

def Operand.datasets (operands : List Operand) : List Dataset :=
  operands.filterMap Operand.dataset?

theorem mem_datasets {operands : List Operand} {d : Dataset} :
    d ∈ Operand.datasets operands ↔ Operand.dataset d ∈ operands := by
  unfold Operand.datasets
  rw [List.mem_filterMap]
  constructor
  · rintro ⟨o, ho, he⟩
    cases o with
    | scalar v => cases he
    | dataset e =>
      cases he
      exact ho
  · exact fun h => ⟨_, h, rfl⟩

namespace Dataset

variable {d : Dataset} {names : List String}

theorem rowAt_of_same (hd : d.Distinct) (hn : d.schema.identifierNames ⊆ names) {q : Row}
    (hq : q ∈ d.rows) {key : Key} (hs : Key.same (names.map (d.schema.read q)) key = true) :
    d.rowAt names key = q := by
  unfold rowAt
  cases hf : d.rows.find? fun q => Key.same (names.map (d.schema.read q)) key with
  | none => exact absurd hs (List.find?_eq_none.1 hf q hq)
  | some p =>
    have hunique : Keyed.Unique (d.rows.map fun r => (names.map (d.schema.read r), r)) :=
      hd.unique hn (fun _ => rfl) id
    have hsame : Key.same (names.map (d.schema.read p)) (names.map (d.schema.read q)) = true := by
      rw [Key.same_comm] at hs
      exact Key.same_trans (by simpa using List.find?_some hf) hs
    exact congrArg Prod.snd (hunique.eq_of_same (List.mem_map_of_mem (List.mem_of_find?_eq_some hf))
      (List.mem_map_of_mem hq) hsame)

theorem find?_partner (hd : d.Distinct) (hn : d.schema.identifierNames ⊆ names)
    {columns : List Nat} (hc : d.schema.positions names = .ok columns) (key : Key) :
    Keyed.find? (d.rows.reverse.map fun r => (Row.key r columns, r)) key =
      if d.Meets names key then some (d.rowAt names key) else none := by
  have hkey : ∀ r : Row, Row.key r columns = names.map (d.schema.read r) :=
    Schema.cells_positions hc
  cases hf : Keyed.find? (d.rows.reverse.map fun r => (Row.key r columns, r)) key with
  | none =>
    refine (if_neg ?_).symm
    rintro ⟨q, hq, hs⟩
    have hnone := List.find?_eq_none.1 (Option.map_eq_none_iff.1 hf) _
      (List.mem_map_of_mem (List.mem_reverse.2 hq))
    exact hnone (by rw [hkey]; exact hs)
  | some a =>
    obtain ⟨p, hp, hs, rfl⟩ := Keyed.mem_of_find? hf
    obtain ⟨q, hq, rfl⟩ := List.mem_map.1 hp
    have hq := List.mem_reverse.1 hq
    rw [hkey] at hs
    rw [if_pos ⟨q, hq, hs⟩, rowAt_of_same hd hn hq hs]

end Dataset

namespace MeasureMap

open Compile

variable {operands : List Operand} {ids : List String}

theorem join_eq {led : Bool} {ss : List Side} (h : sides ids led operands = .ok ss)
    (hd : ∀ d ∈ Operand.datasets operands, d.Distinct ∧ d.schema.identifierNames ⊆ ids)
    {key : Key} {leading : Row}
    (hl : led = false → ∀ d, operands.findSome? Operand.dataset? = some d →
      d.Meets ids key ∧ d.rowAt ids key = leading) :
    join key leading ss = if ∀ d ∈ Operand.datasets operands, d.Meets ids key then
      some (operands.map (Operand.partAt ids key)) else none := by
  induction operands generalizing led ss with
  | nil =>
    cases h
    rfl
  | cons o operands ih =>
    cases o with
    | scalar v =>
      obtain ⟨others, ho, h⟩ := ok_of_bind h
      cases eq_of_pure_ok h
      rw [join, ih ho hd hl]
      change _ = if ∀ d ∈ Operand.datasets operands, d.Meets ids key then _ else none
      split <;> rfl
    | dataset d =>
      obtain ⟨columns, hc, h⟩ := ok_of_bind h
      obtain ⟨others, ho, h⟩ := ok_of_bind h
      cases eq_of_pure_ok h
      obtain ⟨hd1, hd⟩ := List.forall_mem_cons.1 hd
      rw [join, ih ho hd fun h => Bool.noConfusion h]
      have hpart : (if led then Side.partner (d.rows.reverse.map fun r => (Row.key r columns, r))
          else .leading).part key leading =
          if d.Meets ids key then some (.inr (d.rowAt ids key)) else none := by
        cases led with
        | false =>
          obtain ⟨hm, hr⟩ := hl rfl d rfl
          rw [if_pos hm, hr]
          rfl
        | true =>
          change Option.map _ _ = _
          rw [Dataset.find?_partner hd1.1 hd1.2 hc]
          split <;> rfl
      rw [hpart]
      change _ = if ∀ e ∈ d :: Operand.datasets operands, e.Meets ids key then _ else none
      simp only [List.forall_mem_cons]
      by_cases hm : d.Meets ids key
      · rw [if_pos hm]
        simp only [hm, true_and]
        split <;> rfl
      · rw [if_neg hm]
        simp [hm]

theorem join_leading {first : Dataset} {ss : List Side}
    (h : sides first.schema.identifierNames false operands = .ok ss)
    (hf : operands.findSome? Operand.dataset? = some first)
    (hd : ∀ d ∈ Operand.datasets operands,
      d.Distinct ∧ d.schema.identifierNames ⊆ first.schema.identifierNames)
    {r : Row} (hr : r ∈ first.rows) :
    join (first.rowKey r) r ss = if ∀ d ∈ Operand.datasets operands,
        d.Meets first.schema.identifierNames (first.rowKey r) then
      some (operands.map (Operand.partAt first.schema.identifierNames (first.rowKey r)))
      else none := by
  have hsame : Key.same (first.schema.identifierNames.map (first.schema.read r))
      (first.rowKey r) = true := by
    rw [Dataset.rowKey, Schema.key_eq]
    exact Key.same_self _
  refine join_eq h hd fun _ d hlead => ?_
  obtain ⟨hdistinct, hnames⟩ := hd first (mem_datasets.2 (Operand.mem_of_leading hf))
  rw [hf] at hlead
  cases hlead
  exact ⟨⟨r, hr, hsame⟩, Dataset.rowAt_of_same hdistinct hnames hr hsame⟩

theorem arguments_at {compiled : List Compiled} {measure : String}
    (hy : List.Forall₂ Compiled.Shaped compiled operands) {columns : List (Option Nat)}
    (hc : sourceColumns (compiled.map (operandSource measure)) operands = .ok columns)
    (key : Key) :
    List.zipWith argument (operands.map (Operand.partAt ids key)) columns =
      operands.map (Operand.valueAt ids key measure) :=
  arguments_eq (hy.imp fun _ _ h => h.like) hc (fun _ => ⟨rfl, rfl⟩) fun _ => ⟨_, rfl, rfl⟩

theorem outputValues_eq (today : Date) {compiled : List Compiled}
    (hy : List.Forall₂ Compiled.Shaped compiled operands) {measures : List Component}
    {name : Component → String} {op : Component → Operation}
    {columns : List (List (Option Nat))}
    (hc : outputColumns operands (measures.map fun x =>
      ⟨name x, op x, compiled.map (operandSource x.name)⟩) = .ok columns) (key : Key) :
    outputValues today (operands.map (Operand.partAt ids key))
        ((measures.map fun x => ⟨name x, op x, compiled.map (operandSource x.name)⟩).zip columns) =
      measures.mapM fun x => (op x).call today (operands.map (Operand.valueAt ids key x.name)) := by
  induction measures generalizing columns with
  | nil => rfl
  | cons x measures ih =>
    obtain ⟨is, his, hc⟩ := ok_of_bind hc
    obtain ⟨more, hmore, hc⟩ := ok_of_bind hc
    cases eq_of_pure_ok hc
    rw [List.map_cons, List.zip_cons_cons, outputValues, ih hmore, List.mapM_cons,
      arguments_at hy his]

/-- Rows that are joined give their key and the values, and the others give nothing. -/
theorem rows_eq_mapM (today : Date) {ss : List Side} {columns : List Nat}
    {outs : List (MeasureOutput × List (Option Nat))} {keep : Row → Bool}
    {parts : Row → List (Value ⊕ Row)} {rs : List Row}
    (hj : ∀ r ∈ rs, join (Row.key r columns) r ss = if keep r then some (parts r) else none) :
    rows today ss columns outs rs = (rs.filter keep).mapM fun r =>
      (outputValues today (parts r) outs).map fun values => Row.key r columns ++ values := by
  induction rs with
  | nil => rfl
  | cons r rest ih =>
    obtain ⟨hr, hrest⟩ := List.forall_mem_cons.1 hj
    unfold rows
    dsimp only
    rw [hr, ih hrest, List.filter_cons]
    cases keep r with
    | false => rfl
    | true =>
      rw [if_pos rfl, if_pos rfl, List.mapM_cons]
      dsimp only
      cases outputValues today (parts r) outs <;> rfl

def joinedRows (operands : List Operand) (first : Dataset) : List Row :=
  first.rows.filter fun r =>
    ∀ d ∈ Operand.datasets operands, d.Meets first.schema.identifierNames (first.rowKey r)

def shared (operands : List Operand) (first : Dataset) : List Component :=
  first.schema.measures.filter fun x =>
    (Operand.datasets operands).all fun d => (d.schema.get? x.name).any Component.isMeasure

/-- The arguments of an operation for a joined row, where a measure is concerned. -/
def argumentsAt (operands : List Operand) (first : Dataset) (r : Row) (measure : Component) :
    List Value :=
  operands.map (Operand.valueAt first.schema.identifierNames (first.rowKey r) measure.name)

theorem evaluate_eq (today : Date) {compiled : List Compiled} {m : MeasureMap} {s : Schema}
    {first : Dataset} {measures : List Component} {name : Component → String}
    {op : Component → Operation} (hs : m.schema = .ok s)
    (hf : operands.findSome? Operand.dataset? = some first)
    (hi : m.identifiers = first.schema.identifiers)
    (ho : m.outputs = measures.map fun x =>
      ⟨name x, op x, compiled.map (operandSource x.name)⟩)
    (hy : List.Forall₂ Compiled.Shaped compiled operands)
    (hm : ∀ x ∈ measures, ∀ p, Compiled.dataset p ∈ compiled → x.name ∈ p.schema.names)
    (hd : ∀ d ∈ Operand.datasets operands, d.Distinct ∧
      d.schema.identifierNames ⊆ first.schema.identifierNames ∧
      first.schema.identifierNames ⊆ d.schema.names) :
    m.evaluate today operands = ((joinedRows operands first).mapM fun r =>
      (measures.mapM fun x => (op x).call today (argumentsAt operands first r x)).map
        fun values => first.rowKey r ++ values).map fun rows => ⟨s, rows⟩ := by
  have hnames : m.identifiers.map (·.name) = first.schema.identifierNames := by
    rw [hi]
    rfl
  obtain ⟨ss, hss⟩ : ∃ ss, sides first.schema.identifierNames false operands = .ok ss :=
    exists_sides false fun d hm _ hn => (hd d (mem_datasets.2 hm)).2.2 hn
  have hreads : ∀ o ∈ m.outputs, ∃ measure, o.sources = compiled.map (operandSource measure) ∧
      ∀ p, Compiled.dataset p ∈ compiled → measure ∈ p.schema.names := by
    rw [ho]
    intro o hmem
    obtain ⟨x, hx, rfl⟩ := List.mem_map.1 hmem
    exact ⟨x.name, rfl, hm x hx⟩
  obtain ⟨columns, hc, _⟩ := exists_outputColumns hy hreads
  obtain ⟨leading, hl⟩ := Schema.exists_positions fun n hn => first.schema.identifierNames_subset hn
  have hkey : ∀ r : Row, Row.key r leading = first.rowKey r := Schema.key_of_positions hl
  have hjoin : ∀ r ∈ first.rows, join (Row.key r leading) r ss =
      if decide (∀ d ∈ Operand.datasets operands,
        d.Meets first.schema.identifierNames (first.rowKey r)) then
        some (operands.map (Operand.partAt first.schema.identifierNames (first.rowKey r)))
      else none := fun r hr => by
    rw [hkey, join_leading hss hf (fun d hm => ⟨(hd d hm).1, (hd d hm).2.1⟩) hr]
    simp only [decide_eq_true_eq]
  rw [evaluate_eq_rows hs hf (hnames ▸ hss) hc (hnames ▸ hl), rows_eq_mapM today hjoin]
  rw [ho] at hc ⊢
  simp only [outputValues_eq today hy hc, hkey]
  rfl

theorem schemas_of_shaped {compiled : List Compiled}
    (h : List.Forall₂ Compiled.Shaped compiled operands) :
    (Operand.datasets operands).map (·.schema) = (plans compiled).map (·.schema) := by
  induction h with
  | nil => rfl
  | cons hshape _ ih =>
    rename_i c o compiled operands _
    cases c with
    | scalar e =>
      cases o with
      | scalar v => exact ih
      | dataset d => exact hshape.elim
    | dataset p =>
      cases o with
      | scalar v => exact hshape.elim
      | dataset d => exact congrArg₂ List.cons hshape ih

theorem shared_eq {first : Dataset} {p : Plan} {ps : List Plan} (hf : first.schema = p.schema)
    (h : (Operand.datasets operands).map (·.schema) = ps.map (·.schema)) :
    sharedMeasures p ps = shared operands first := by
  unfold sharedMeasures shared
  rw [hf]
  refine List.filter_congr fun x _ => ?_
  have hall := congrArg (List.all · fun s => (s.get? x.name).any Component.isMeasure) h
  simp only [List.all_map] at hall
  exact hall.symm

/-- An operation that is lifted to datasets is an inner join on the identifiers of the first: there
    is a row for each of its rows that joins, in their order, with the key of the row and, for each
    measure that all share, the value of the operation on what the operands have under the key. It
    fails exactly if the operation fails somewhere. -/
theorem joins_of_lift (today : Date) {build : Builder} {compiled : List Compiled}
    {operands : List Operand} {m : MeasureMap} {s : Schema}
    (hlift : Compile.lift build compiled = .ok (.dataset (.map compiled m s)))
    (hshape : List.Forall₂ Compiled.Shaped compiled operands)
    (hdistinct : ∀ d ∈ Operand.datasets operands, d.Distinct) :
    ∃ (first : Dataset) (op : Component → Operation),
      operands.findSome? Operand.dataset? = some first ∧
      m.identifiers = first.schema.identifiers ∧
      (∀ x ∈ shared operands first, build (compiled.map (operandType x.name)) = .ok (op x)) ∧
      m.outputs = ((shared operands first).map fun x =>
        ⟨outputName ((shared operands first).length == 1) x (op x), op x,
          compiled.map (operandSource x.name)⟩) ∧
      (∀ e, m.evaluate today operands = .ok e ↔ e.schema = s ∧
        List.Forall₂ (fun r row => ∃ values,
            List.Forall₂ (fun x v => (op x).call today (argumentsAt operands first r x) = .ok v)
              (shared operands first) values ∧ first.rowKey r ++ values = row)
          (joinedRows operands first) e.rows) ∧
      ((∃ err, m.evaluate today operands = .error err) ↔
        ∃ r ∈ joinedRows operands first, ∃ x ∈ shared operands first,
          ∃ err, (op x).call today (argumentsAt operands first r x) = .error err) := by
  obtain ⟨lead, rest, hplans, hids, houts, hidentifiers, hs⟩ := lift_map_ok hlift
  have hschemas := schemas_of_shaped hshape
  rw [hplans] at hschemas
  obtain ⟨first, _, hdatasets, hlead, _⟩ := List.map_eq_cons_iff.1 hschemas
  have hf : operands.findSome? Operand.dataset? = some first := by
    rw [← List.head?_filterMap]
    exact congrArg List.head? hdatasets
  have hshared := shared_eq hlead hschemas
  have hplan : ∀ d ∈ Operand.datasets operands, ∃ p ∈ lead :: rest, p.schema = d.schema := by
    intro d hd
    exact List.mem_map.1 (hschemas ▸ List.mem_map_of_mem hd)
  rw [hshared] at houts
  obtain ⟨op, hbuild, houts⟩ := outputs_eq houts
  have heq := evaluate_eq today hs hf (by rw [hidentifiers, hlead]) houts hshape
    (fun x hx p hp => measure_shared (hshared ▸ hx) p (hplans ▸ mem_plans.2 hp)) (by
      intro d hd
      obtain ⟨p, hp, he⟩ := hplan d hd
      rw [← he, hlead]
      exact ⟨hdistinct d hd, identifiers_of_shared hids p hp, identifiers_shared hids p hp⟩)
  refine ⟨first, op, hf, by rw [hidentifiers, hlead], hbuild, houts, fun e => ?_, ?_⟩
  · rw [heq, map_eq_ok]
    simp only [mapM_eq_ok, map_eq_ok]
    constructor
    · rintro ⟨rows, hrows, rfl⟩
      exact ⟨rfl, hrows⟩
    · rintro ⟨rfl, hrows⟩
      exact ⟨e.rows, hrows, rfl⟩
  · rw [heq]
    simp only [map_eq_error, exists_mapM_error]

def bounded : List Compiled :=
  [.dataset (.named "amounts" SetOp.yearly.schema), .scalar (.ofValue (.integer 0)),
    .dataset (.named "bounds" SetOp.turned.schema)]

def boundedOperands : List Operand :=
  [.dataset SetOp.yearly, .scalar (.integer 0), .dataset SetOp.turned]

def isBetween : Builder := fun types =>
  ScalarFunction.between.operation .standard types (bounded.map known?)

theorem joins_of_lift_between :
    ∃ m s, Compile.lift isBetween bounded = .ok (.dataset (.map bounded m s)) ∧
      s.names = ["year", Report.resultName] ∧
      m.evaluate .epoch boundedOperands = .ok ⟨s, [[.integer 2, .boolean true]]⟩ := by
  have hlift := (rfl : Compile.lift isBetween bounded = _)
  have hshape : List.Forall₂ Compiled.Shaped bounded boundedOperands :=
    .cons rfl (.cons trivial (.cons rfl .nil))
  have hdistinct : ∀ d ∈ Operand.datasets boundedOperands, d.Distinct :=
    SetOp.combinable_turned.distinct
  obtain ⟨first, op, hfirst, _, hbuild, _, hok, _⟩ :=
    joins_of_lift .epoch hlift hshape hdistinct
  cases hfirst
  have hshared : shared boundedOperands SetOp.yearly = [.measure "amount" .integer] := by decide
  have hjoined : joinedRows boundedOperands SetOp.yearly = [[.integer 2, .integer 20]] := by decide
  have hop : op (.measure "amount" .integer) = .between := by
    have hb := hbuild (.measure "amount" .integer) (hshared ▸ List.mem_singleton.2 rfl)
    exact Except.ok.inj hb.symm
  refine ⟨_, _, hlift, rfl, (hok _).2 ⟨rfl, ?_⟩⟩
  rw [hjoined, hshared]
  refine .cons ⟨[.boolean true], .cons ?_ .nil, rfl⟩ .nil
  rw [hop]
  rfl

end MeasureMap
end Tabular
