import Tabular.Dataset.Json
import Tabular.Dataset.Table
import Tabular.Proofs.Comparing
import Tabular.Proofs.Window.Arrangement

set_option autoImplicit false

namespace Tabular

namespace Schema

open Sorting (OrderedOn)

variable {s : Schema} {q r : Row}

def keyOrders (s : Schema) : List OrderItem := s.identifiers.map fun c => { component := c.name }

theorem sortColumns_map {cs : List Component} (h : ∀ c ∈ cs, c ∈ s.components) :
    Window.sortColumns s (cs.map fun c => { component := c.name }) =
      .ok (cs.map fun c => ((s.indexOf? c.name).getD 0, false)) := by
  induction cs with
  | nil => rfl
  | cons c cs ih =>
    obtain ⟨hc, hcs⟩ := List.forall_mem_cons.1 h
    obtain ⟨i, hi⟩ := List.getElem?_of_mem hc
    have hx := indexOf?_of_getElem? hi
    rw [List.map_cons, Window.sortColumns, position_ok.2 hx, ih hcs, List.map_cons, hx]
    rfl

theorem sortColumns_keyOrders (s : Schema) :
    Window.sortColumns s s.keyOrders = .ok (s.identifierIndices.map fun i => (i, false)) := by
  rw [identifierIndices, indices_eq, List.map_map]
  exact sortColumns_map fun c hc => List.mem_of_mem_filter hc

/-- Rows are sorted by their keys as in a window that orders by the identifiers. -/
theorem orderBy_eq_compareRows (indices : List Nat) :
    Dataset.orderBy indices = Window.compareRows (indices.map fun i => (i, false)) := by
  induction indices with
  | nil => rfl
  | cons i rest ih =>
    funext q r
    rw [Dataset.orderBy, List.map_cons, Window.compareRows, ih]
    rfl

theorem keyOrder_orderedOn (s : Schema) :
    OrderedOn s.Admits (Dataset.orderBy s.identifierIndices) := by
  rw [orderBy_eq_compareRows]
  exact Window.compareRows_orderedOn (sortColumns_keyOrders s)

theorem key_eq_of_order_eq (hq : s.Admits q) (hr : s.Admits r)
    (h : Dataset.orderBy s.identifierIndices q r = .eq) :
    Row.key q s.identifierIndices = Row.key r s.identifierIndices := by
  rw [orderBy_eq_compareRows, Window.compareRows_eq_iff (sortColumns_keyOrders s), keyOrders,
    List.forall_mem_map] at h
  rw [Row.key, Row.key, identifierIndices, cells_indices, cells_indices]
  refine List.map_congr_left fun c hc => ?_
  have hm := List.mem_of_mem_filter hc
  exact Value.eq_of_conforms (hq.read hm) (hr.read hm) (h c hc)

end Schema

namespace Dataset

variable {d e : Dataset}

theorem Distinct.order_ne (hd : d.Distinct) (hc : d.Conforms) :
    d.rows.Pairwise fun q r => orderBy d.schema.identifierIndices q r ≠ .eq := by
  refine List.Pairwise.imp_of_mem (fun {q r} hq hr hqr he => ?_) hd
  rw [rowKey, rowKey, Schema.key_eq_of_order_eq (hc q hq) (hc r hr) he, Key.same_self] at hqr
  cases hqr

theorem sortedRows_perm (d : Dataset) : d.sortedRows.Perm d.rows :=
  Sorting.sort_perm _ _

theorem Distinct.sortedRows_pairwise (hd : d.Distinct) (hc : d.Conforms) :
    d.sortedRows.Pairwise fun q r => orderBy d.schema.identifierIndices q r = .lt := by
  have horder := d.schema.keyOrder_orderedOn
  have hne : d.sortedRows.Pairwise fun q r => orderBy d.schema.identifierIndices q r ≠ .eq :=
    List.Pairwise.perm (hd.order_ne hc) d.sortedRows_perm.symm fun {q r} hqr he =>
      hqr (by rw [← horder.swap, he]; rfl)
  refine ((Sorting.sort_pairwise horder hc).and hne).imp fun {q r} h => ?_
  exact Ordering.isLE_iff_eq_lt_or_eq_eq.1 h.1 |>.resolve_right h.2

theorem Rearranged.sortedRows_eq (h : d.Rearranged e) (hc : d.Conforms) (hd : d.Distinct) :
    d.sortedRows = e.sortedRows := by
  unfold sortedRows
  rw [h.schema]
  exact Sorting.sort_eq_of_perm d.schema.keyOrder_orderedOn h.rows hc (hd.order_ne hc)

/-- Datasets that differ in the order of their rows are rendered alike: the sorted rows are the one
    strictly ascending arrangement of the rows, and tables, records and JSON follow it. -/
theorem renderings_of_rearranged (hc : d.Conforms) (hd : d.Distinct) (h : d.Rearranged e) :
    (d.sortedRows.Perm d.rows ∧
      (d.sortedRows.Pairwise fun q r => orderBy d.schema.identifierIndices q r = .lt) ∧
      d.sortedRows = e.sortedRows) ∧
    (∀ name limit, d.table name limit = e.table name limit) ∧
    d.records = e.records ∧ d.json = e.json := by
  have hrows := h.sortedRows_eq hc hd
  have hrecords : d.records = e.records := by rw [records, records, h.schema, hrows]
  refine ⟨⟨d.sortedRows_perm, hd.sortedRows_pairwise hc, hrows⟩, fun name limit => ?_, hrecords, ?_⟩
  · unfold table
    rw [h.schema, hrows]
  · unfold json
    rw [h.schema, hrecords]

theorem renderings_of_rearranged_tally :
    tally ≠ tallyTurned ∧ tally.table "D" 1 = tallyTurned.table "D" 1 ∧
    tally.json = tallyTurned.json := by
  have haccepted : ofRows tally.schema tally.rows = .ok tally := rfl
  obtain ⟨hc, hd⟩ := ofRows_ok haccepted
  have hturned : tally.Rearranged tallyTurned := ⟨rfl, (List.reverse_perm _).symm⟩
  obtain ⟨-, htable, -, hjson⟩ := renderings_of_rearranged hc hd hturned
  exact ⟨by decide, htable "D" 1, hjson⟩

end Dataset
end Tabular
