import Mathlib.Data.Set.Basic
import Tabular.Proofs.Order.Joins

set_option autoImplicit false

namespace Tabular

namespace Schema

variable {s t : Schema}

theorem eq_of_components_eq (h : s.components = t.components) : s = t := by
  cases s
  cases t
  cases h
  rfl

theorem compatible_iff : s.compatible t = true ↔ s.components.Perm t.components := by
  refine ⟨SetOp.perm_of_compatible, fun h => Bool.and_eq_true_iff.2 ⟨?_, ?_⟩⟩
  · exact beq_iff_eq.2 h.length_eq
  · refine List.all_eq_true.2 fun c hc => beq_iff_eq.2 ?_
    exact get?_eq_some.2 ⟨h.mem_iff.1 hc, rfl⟩

/-- A row as a record of its values by name, null under other names. Values that are the same are
    one value of the record. -/
def record (s : Schema) (r : Row) (name : String) : Value := (s.read r name).canonical

theorem record_eq_iff {q r : Row} (h : s.components.Perm t.components) :
    s.record q = t.record r ↔ ∀ c ∈ s.components, (s.read q c.name).same (t.read r c.name) := by
  constructor
  · exact fun heq c _ => Value.same_iff.2 (congrFun heq c.name)
  · refine fun hsame => funext fun n => ?_
    by_cases hn : n ∈ s.names
    · obtain ⟨c, hc, rfl⟩ := mem_names.1 hn
      exact Value.same_iff.1 (hsame c hc)
    · have hn' : n ∉ t.names := fun hm => hn ((h.map (·.name)).mem_iff.2 hm)
      rw [record, record, read_of_not_mem hn, read_of_not_mem hn']

theorem same_iff_record {q r : Row} (hq : q.length = s.size) (hr : r.length = s.size) :
    Key.same q r = true ↔ s.record q = s.record r := by
  rw [record_eq_iff (.refl _), ← Key.same_map, ← eq_map_read hq, ← eq_map_read hr]

end Schema

namespace Dataset

variable {d e : Dataset}

def recordSet (d : Dataset) : Set (String → Value) :=
  {record | ∃ r ∈ d.rows, d.schema.record r = record}

theorem recordSet_singleton {r : Row} (h : d.rows = [r]) :
    d.recordSet = {d.schema.record r} := by
  ext record
  simp [recordSet, h, eq_comm]

/-- The same components, in any order, and the same set of records. -/
def LogicallyEqual (d e : Dataset) : Prop :=
  d.schema.components.Perm e.schema.components ∧ d.recordSet = e.recordSet

/-- The rows of a dataset under the columns of another structure. -/
def under (e : Dataset) (s : Schema) : Dataset := ⟨s, e.rows⟩

/-- The records of the second dataset are the same under the columns of the first. -/
def Steady (d e : Dataset) : Prop := (e.under d.schema).recordSet = e.recordSet

theorem rowsWithin_iff {rows others : List Row} :
    rowsWithin rows others = true ↔ ∀ r ∈ rows, ∃ q ∈ others, Key.same r q = true := by
  simp [rowsWithin]

theorem rowsWithin_iff_subset {s : Schema} {rows others : List Row}
    (hrows : ∀ r ∈ rows, r.length = s.size) (hothers : ∀ q ∈ others, q.length = s.size) :
    rowsWithin rows others = true ↔ recordSet ⟨s, rows⟩ ⊆ recordSet ⟨s, others⟩ := by
  rw [rowsWithin_iff]
  constructor
  · rintro h record ⟨r, hr, rfl⟩
    obtain ⟨q, hq, hsame⟩ := h r hr
    exact ⟨q, hq, ((Schema.same_iff_record (hrows r hr) (hothers q hq)).1 hsame).symm⟩
  · intro h r hr
    obtain ⟨q, hq, heq⟩ := h ⟨r, hr, rfl⟩
    exact ⟨q, hq, (Schema.same_iff_record (hrows r hr) (hothers q hq)).2 heq.symm⟩

/-- The comparison takes the rows of the second dataset under the columns of the first. -/
theorem same_iff (hd : ∀ r ∈ d.rows, r.length = d.schema.size)
    (he : ∀ r ∈ e.rows, r.length = e.schema.size) :
    d.same e = true ↔ d.schema.components.Perm e.schema.components ∧
      d.recordSet = (e.under d.schema).recordSet := by
  rw [same, Bool.and_eq_true_iff, Bool.and_eq_true_iff, Schema.compatible_iff, and_assoc]
  refine and_congr_right fun hp => ?_
  -- The rows of the second dataset have the right length for the columns of the first.
  have hlen : ∀ r ∈ e.rows, r.length = d.schema.size := by
    intro r hr
    rw [he r hr]
    exact hp.length_eq.symm
  rw [rowsWithin_iff_subset hd hlen, rowsWithin_iff_subset hlen hd]
  exact Set.Subset.antisymm_iff.symm

/-- The comparison is right about two datasets exactly if, where they are equal or are taken for it,
    the records of the second stay what they are under the columns of the first. So it is right
    where the columns stand in one order. -/
theorem same_iff_logicallyEqual_iff (hd : d.Conforms) (he : e.Conforms) :
    (d.same e = true ↔ d.schema.components.Perm e.schema.components ∧
      d.recordSet = (e.under d.schema).recordSet) ∧
    ((d.same e = true ↔ d.LogicallyEqual e) ↔ (d.same e = true ∨ d.LogicallyEqual e → d.Steady e)) ∧
    (d.schema.components = e.schema.components → (d.same e = true ↔ d.LogicallyEqual e)) := by
  have hsame := same_iff (fun r hr => (hd r hr).length_eq) fun r hr => (he r hr).length_eq
  -- That the datasets are taken for equal, that they are and that the second is steady: two of
  -- these give the third, as the components are the same in either of the first two cases.
  have hright (hsteady : d.same e = true ∨ d.LogicallyEqual e → d.Steady e) :
      d.same e = true ↔ d.LogicallyEqual e := by
    constructor
    · intro h
      obtain ⟨hp, hrecords⟩ := hsame.1 h
      exact ⟨hp, hrecords.trans (hsteady (.inl h))⟩
    · intro h
      exact hsame.2 ⟨h.1, h.2.trans (hsteady (.inr h)).symm⟩
  refine ⟨hsame, ⟨fun h hor => ?_, hright⟩, fun h => hright fun _ => ?_⟩
  · have hs : d.same e = true := hor.elim id h.2
    exact (hsame.1 hs).2.symm.trans (h.1 hs).2
  · have hschema : d.schema = e.schema := Schema.eq_of_components_eq h
    rw [Steady, under, hschema]

def ledger : Dataset where
  schema := ⟨[.identifier "k" .integer, .measure "debit" .integer, .measure "credit" .integer],
    by decide, by decide⟩
  rows := [[.integer 1, .integer 2, .integer 3]]

def turned : Schema :=
  ⟨[.identifier "k" .integer, .measure "credit" .integer, .measure "debit" .integer],
    by decide, by decide⟩

def ledgerTurned : Dataset := ⟨turned, [[.integer 1, .integer 3, .integer 2]]⟩

theorem accepted_ledger : ofRows ledger.schema ledger.rows = .ok ledger := rfl

theorem accepted_ledgerTurned : ofRows turned ledgerTurned.rows = .ok ledgerTurned := rfl

theorem logicallyEqual_ledgerTurned : ledger.LogicallyEqual ledgerTurned := by
  have hp : ledger.schema.components.Perm ledgerTurned.schema.components := by decide
  refine ⟨hp, ?_⟩
  rw [recordSet_singleton (d := ledger) rfl, recordSet_singleton (d := ledgerTurned) rfl]
  exact congrArg _ ((Schema.record_eq_iff hp).2 (by decide))

theorem not_steady_ledgerTurned : ledger.Conforms ∧ ledgerTurned.Conforms ∧
    ¬ ledger.Steady ledgerTurned := by
  have hd := (ofRows_ok accepted_ledger).1
  have he := (ofRows_ok accepted_ledgerTurned).1
  refine ⟨hd, he, fun hsteady => ?_⟩
  have hright := (same_iff_logicallyEqual_iff hd he).2.1.2 fun _ => hsteady
  exact absurd (hright.2 logicallyEqual_ledgerTurned) (by decide)

/-- Two datasets with one record are told apart, and two with different records are not. -/
theorem same_by_columns :
    ofRows ledger.schema ledger.rows = .ok ledger ∧
    ofRows turned ledgerTurned.rows = .ok ledgerTurned ∧
    ofRows turned ledger.rows = .ok (ledger.under turned) ∧
    (ledger.LogicallyEqual ledgerTurned ∧ ledger.same ledgerTurned = false) ∧
    ¬ ledger.LogicallyEqual (ledger.under turned) ∧ ledger.same (ledger.under turned) = true := by
  refine ⟨accepted_ledger, accepted_ledgerTurned, rfl, ⟨logicallyEqual_ledgerTurned, by decide⟩,
    fun h => ?_, by decide⟩
  have hrecords := h.2
  rw [recordSet_singleton (d := ledger) rfl, recordSet_singleton (d := ledger.under turned) rfl,
    Set.singleton_eq_singleton_iff] at hrecords
  exact absurd (congrFun hrecords "debit") (by decide)

end Dataset
end Tabular
