import Mathlib.Data.List.Nodup
import Tabular.Proofs.Grouping
import Tabular.Proofs.Order.Rows
import Tabular.Proofs.Window.Ordering

set_option autoImplicit false

/-!
# Window functions on rows in another order

What a window function gives for a row depends on the rows of its partition in sort order. Where
the order leaves no two rows of a partition equal, that is one and the same list however the rows
are arranged, and so every row has the same value.
-/
namespace Tabular

namespace Window

theorem slice_map {α β : Type} (f : Frame) (g : α → β) (xs : List α) :
    f.slice (xs.map g) = (f.slice xs).map g := by
  rw [Frame.slice, Frame.slice, List.map_take, List.map_drop]

section
variable {c : WindowCall} {measure : ScalarType} {source : Nat} {columns : SortColumns}

def sortedValues (c : WindowCall) (measure : ScalarType) (source : Nat) (columns : SortColumns)
    (rows : List Row) : Except EvalError (List Value) := do
  let w := effective c.window (!columns.isEmpty)
  let keys ← rangeKeys c.function w columns (number rows)
  let frame := frameOf w (columns.head?.any (·.2)) keys rows.length
  (List.range' 0 rows.length).mapM fun pos =>
    c.function.aggregate (((frame pos).slice rows).map (Row.cell · source)) measure

theorem evaluateFrom_eq (f : WindowFunction) (measure : ScalarType) (source : Nat)
    (sorted : List Member) (frame : Nat → Frame) (pos : Nat) (rest : List Member) :
    evaluateFrom f measure source sorted frame pos rest =
      ((List.range' pos rest.length).mapM fun p => f.aggregate
        (((frame p).slice (sorted.map (·.2))).map (Row.cell · source)) measure).map
        (rest.map (·.1)).zip := by
  induction rest generalizing pos with
  | nil => rfl
  | cons m rest ih =>
    have hframe : ((frame pos).slice (sorted.map (·.2))).map (Row.cell · source) =
        ((frame pos).slice sorted).map fun m => Row.cell m.2 source := by
      rw [slice_map, List.map_map]
      rfl
    rw [evaluateFrom, ih, List.length_cons, List.range'_succ, List.mapM_cons, hframe]
    cases f.aggregate (((frame pos).slice sorted).map fun m => Row.cell m.2 source) measure with
    | error e => rfl
    | ok v =>
      cases (List.range' (pos + 1) rest.length).mapM fun p => f.aggregate
        (((frame p).slice (sorted.map (·.2))).map (Row.cell · source)) measure with
      | error e => rfl
      | ok vs => rfl

theorem rangeKeys_congr {sorted sorted' : List Member}
    (h : sorted.map (·.2) = sorted'.map (·.2)) (f : WindowFunction) (w : Option Window)
    (columns : SortColumns) : rangeKeys f w columns sorted = rangeKeys f w columns sorted' := by
  have hkeys (i : Nat) : (sorted.map fun m => (Row.cell m.2 i).number?) =
      sorted'.map fun m => (Row.cell m.2 i).number? := by
    have hcells := congrArg (List.map fun r => (Row.cell r i).number?) h
    rw [List.map_map, List.map_map] at hcells
    exact hcells
  unfold rangeKeys
  split
  · rfl
  · rw [hkeys]
  · rfl

def sortedMembers (columns : SortColumns) (members : List Member) : List Member :=
  Sorting.sort (fun m n => compareRows columns m.2 n.2) members

theorem sortedMembers_rows (columns : SortColumns) (members : List Member) :
    (sortedMembers columns members).map (·.2) =
      Sorting.sort (compareRows columns) (members.map (·.2)) :=
  Sorting.sort_map (·.2) (compareRows columns) members

theorem evaluatePartition_eq (members : List Member) :
    evaluatePartition c measure source columns members =
      (sortedValues c measure source columns
        (Sorting.sort (compareRows columns) (members.map (·.2)))).map
        ((sortedMembers columns members).map (·.1)).zip := by
  have hrows := sortedMembers_rows columns members
  have hkeys := rangeKeys_congr ((Dataset.number_rows _).trans hrows.symm) c.function
    (effective c.window (!columns.isEmpty)) columns
  have hlen : (sortedMembers columns members).length =
      (Sorting.sort (compareRows columns) (members.map (·.2))).length := by
    rw [← hrows, List.length_map]
  change rangeKeys c.function (effective c.window (!columns.isEmpty)) columns
    (sortedMembers columns members) >>= (fun keys =>
      evaluateFrom c.function measure source (sortedMembers columns members)
        (frameOf (effective c.window (!columns.isEmpty)) (columns.head?.any (·.2)) keys
          (sortedMembers columns members).length) 0 (sortedMembers columns members)) = _
  unfold sortedValues
  dsimp only
  rw [hkeys]
  cases rangeKeys c.function (effective c.window (!columns.isEmpty)) columns
    (sortedMembers columns members) with
  | error e => rfl
  | ok keys =>
    change evaluateFrom c.function measure source (sortedMembers columns members) _ 0
      (sortedMembers columns members) = Except.map _ (List.mapM _ _)
    rw [evaluateFrom_eq, hrows, hlen]

theorem evaluatePartitions_eq (key : Row → Key) (members : List Member) :
    evaluatePartitions c measure source columns (Keyed.group (fun m => key m.2) members) =
      ((Keyed.leaders (fun m : Member => key m.2) members).mapM fun l =>
        evaluatePartition c measure source columns
          (Keyed.fellows (fun m => key m.2) members l)).map List.flatten := by
  have hcollect (partitions : Keyed (List Member)) :
      evaluatePartitions c measure source columns partitions =
        collect (fun p => evaluatePartition c measure source columns p.2) partitions := by
    induction partitions with
    | nil => rfl
    | cons p rest ih =>
      rw [evaluatePartitions, collect, ih]
  rw [hcollect, Keyed.group_eq, collect_map, collect_eq_mapM]

def partitionOf (key : Row → Key) (columns : SortColumns) (rows : List Row) (r : Row) : List Row :=
  Sorting.sort (compareRows columns) (Keyed.fellows key rows r)

theorem fellows_rows (key : Row → Key) (members : List Member) (m : Member) :
    (Keyed.fellows (fun m => key m.2) members m).map (·.2) =
      Keyed.fellows key (members.map (·.2)) m.2 := by
  rw [Keyed.fellows, Keyed.fellows, List.filter_map]
  rfl

section
variable {key : Row → Key} {rows : List Row}

theorem evaluatePartition_fellows (m : Member) :
    evaluatePartition c measure source columns
        (Keyed.fellows (fun m => key m.2) (number rows) m) =
      (sortedValues c measure source columns (partitionOf key columns rows m.2)).map
        ((sortedMembers columns (Keyed.fellows (fun m => key m.2) (number rows) m)).map
          (·.1)).zip := by
  rw [evaluatePartition_eq, fellows_rows, Dataset.number_rows]
  rfl

/-- The evaluation fails if and only if it fails for the partition of some row. -/
theorem evaluatePartitions_error (key : Row → Key) (rows : List Row) :
    (∃ e, evaluatePartitions c measure source columns
        (Keyed.group (fun m => key m.2) (number rows)) = .error e) ↔
      ∃ r ∈ rows, ∃ e,
        sortedValues c measure source columns (partitionOf key columns rows r) = .error e := by
  rw [evaluatePartitions_eq]
  simp only [map_eq_error]
  rw [exists_mapM_error]
  constructor
  · rintro ⟨l, hl, e, he⟩
    rw [evaluatePartition_fellows, map_eq_error] at he
    refine ⟨l.2, ?_, e, he⟩
    rw [← Dataset.number_rows rows]
    exact List.mem_map.2 ⟨l, Keyed.mem_leaders hl, rfl⟩
  · rintro ⟨r, hr, e, he⟩
    rw [← Dataset.number_rows rows] at hr
    obtain ⟨m, hm, rfl⟩ := List.mem_map.1 hr
    obtain ⟨l, hl, hs⟩ := Keyed.exists_leader_fellows hm
    refine ⟨l, hl, e, ?_⟩
    rw [hs, evaluatePartition_fellows, map_eq_error]
    exact he

theorem mem_evaluatePartition {members : List Member} {part : List (Nat × Value)}
    (h : evaluatePartition c measure source columns members = .ok part) {i : Nat} {v : Value}
    (hv : (i, v) ∈ part) : ∃ r, (i, r) ∈ members := by
  rw [evaluatePartition_eq] at h
  obtain ⟨values, _, rfl⟩ := map_eq_ok.1 h
  obtain ⟨m, hm, rfl⟩ := List.mem_map.1 (List.of_mem_zip hv).1
  exact ⟨m.2, (Sorting.sort_perm _ members).mem_iff.1 hm⟩

theorem nodup_number (rows : List Row) : ((number rows).map (·.1)).Nodup := by
  rw [number, List.map_fst_zip (by simp)]
  exact List.nodup_range

theorem mem_evaluatePartitions {results : List (Nat × Value)}
    (h : evaluatePartitions c measure source columns
      (Keyed.group (fun m => key m.2) (number rows)) = .ok results) {m : Member}
    (hm : m ∈ number rows) :
    ∃ part, evaluatePartition c measure source columns
        (Keyed.fellows (fun m => key m.2) (number rows) m) = .ok part ∧
      ∀ v, (m.1, v) ∈ results ↔ (m.1, v) ∈ part := by
  rw [evaluatePartitions_eq] at h
  obtain ⟨parts, hparts, rfl⟩ := map_eq_ok.1 h
  have hparts := mapM_eq_ok.1 hparts
  obtain ⟨l, hl, hs⟩ := Keyed.exists_leader_fellows hm
  obtain ⟨part, hmem, hpart⟩ := exists_left_of_mem hparts.flip hl
  rw [hs] at hpart
  refine ⟨part, hpart, fun v => ⟨fun hv => ?_, fun hv => List.mem_flatten.2 ⟨part, hmem, hv⟩⟩⟩
  obtain ⟨other, hother, hv⟩ := List.mem_flatten.1 hv
  obtain ⟨k, hk, hok⟩ := exists_left_of_mem hparts hother
  obtain ⟨r, hr⟩ := mem_evaluatePartition hok hv
  -- Numbers are distinct, so the partition of that leader is the partition of the row.
  obtain ⟨hr, hkey⟩ := List.mem_filter.1 hr
  have hm' : (m.1, r) = m := List.inj_on_of_nodup_map (nodup_number rows) hr hm rfl
  have hsame : Keyed.fellows (fun m => key m.2) (number rows) k =
      Keyed.fellows (fun m => key m.2) (number rows) m := by
    rw [hm'] at hkey
    exact Keyed.fellows_congr hkey
  rw [hsame, hpart] at hok
  cases hok
  exact hv

theorem length_sortedValues {rows : List Row} {values : List Value}
    (h : sortedValues c measure source columns rows = .ok values) :
    values.length = rows.length := by
  obtain ⟨keys, _, h⟩ := ok_of_bind h
  rw [← (mapM_eq_ok.1 h).length_eq, List.length_range']

theorem exists_place (columns : SortColumns) {members : List Member} (hn : (members.map (·.1)).Nodup) {m : Member}
    (hm : m ∈ members) :
    ∃ p : Nat, (Sorting.sort (compareRows columns) (members.map (·.2)))[p]? = some m.2 ∧
      ∀ (values : List Value) (v : Value),
        (m.1, v) ∈ ((sortedMembers columns members).map (·.1)).zip values ↔
          values[p]? = some v := by
  have hperm : (sortedMembers columns members).Perm members := Sorting.sort_perm _ members
  obtain ⟨p, hp⟩ := List.getElem?_of_mem (hperm.mem_iff.2 hm)
  refine ⟨p, ?_, fun values v => mem_zip_iff ((hperm.map _).nodup_iff.2 hn) ?_ v⟩
  · rw [← sortedMembers_rows, List.getElem?_map, hp]
    rfl
  · rw [List.getElem?_map, hp]
    rfl

theorem getElem?_arrange {len i : Nat} (hi : i < len) {results : List (Nat × Value)} {v : Value}
    (hv : ∀ w, (i, w) ∈ results ↔ some v = some w) : (arrange len results)[i]? = some v := by
  rw [arrange, List.getElem?_map, List.getElem?_range hi, Option.map_some]
  cases hf : results.find? (·.1 == i) with
  | none => exact absurd (beq_self_eq_true i) (List.find?_eq_none.1 hf _ ((hv v).2 rfl))
  | some p =>
    have hp : p.1 = i := by simpa using List.find?_some hf
    rw [(hv p.2).1 (hp ▸ List.mem_of_find?_eq_some hf)]
    rfl

theorem exists_value {results : List (Nat × Value)}
    (h : evaluatePartitions c measure source columns
      (Keyed.group (fun m => key m.2) (number rows)) = .ok results) {i : Nat} {r : Row}
    (hr : rows[i]? = some r) :
    ∃ (values : List Value) (p : Nat),
      sortedValues c measure source columns (partitionOf key columns rows r) = .ok values ∧
        (partitionOf key columns rows r)[p]? = some r ∧
        (arrange rows.length results)[i]? = values[p]? := by
  have hi : i < rows.length := (List.getElem?_eq_some_iff.1 hr).1
  have hm : (i, r) ∈ number rows :=
    List.mem_of_getElem? (List.getElem?_zip_eq_some.2 ⟨List.getElem?_range hi, hr⟩)
  obtain ⟨part, hpart, hmem⟩ := mem_evaluatePartitions h hm
  rw [evaluatePartition_fellows] at hpart
  obtain ⟨values, hvalues, rfl⟩ := map_eq_ok.1 hpart
  have hfellow : (i, r) ∈ Keyed.fellows (fun m => key m.2) (number rows) (i, r) :=
    List.mem_filter.2 ⟨hm, Key.same_self _⟩
  have hnodup : ((Keyed.fellows (fun m => key m.2) (number rows) (i, r)).map (·.1)).Nodup :=
    (nodup_number rows).sublist (List.filter_sublist.map _)
  obtain ⟨p, hp, hplace⟩ := exists_place columns hnodup hfellow
  rw [fellows_rows, Dataset.number_rows] at hp
  have hlt : p < values.length := by
    rw [length_sortedValues hvalues]
    exact (List.getElem?_eq_some_iff.1 hp).1
  refine ⟨values, p, hvalues, hp, ?_⟩
  rw [List.getElem?_eq_getElem hlt]
  refine getElem?_arrange hi fun w => ?_
  rw [hmem, hplace, List.getElem?_eq_getElem hlt]

theorem evaluatePartitions_matched {rows' : List Row} (hperm : rows.Perm rows')
    (hsame : ∀ r, partitionOf key columns rows r = partitionOf key columns rows' r)
    (hnodup : ∀ r, (partitionOf key columns rows r).Nodup) :
    Matched
      (fun results results' => ∀ (i j : Nat) (r : Row), rows[i]? = some r → rows'[j]? = some r →
        (arrange rows.length results)[i]? = (arrange rows'.length results')[j]?)
      (evaluatePartitions c measure source columns (Keyed.group (fun m => key m.2) (number rows)))
      (evaluatePartitions c measure source columns
        (Keyed.group (fun m => key m.2) (number rows'))) := by
  cases hx : evaluatePartitions c measure source columns
      (Keyed.group (fun m => key m.2) (number rows)) with
  | error e =>
    obtain ⟨r, hr, hfail⟩ := (evaluatePartitions_error key rows).1 ⟨e, hx⟩
    rw [hsame r] at hfail
    obtain ⟨e', he⟩ :=
      (evaluatePartitions_error key rows').2 ⟨r, hperm.mem_iff.1 hr, hfail⟩
    rw [he]
    exact .error e e'
  | ok results =>
    cases hy : evaluatePartitions c measure source columns
        (Keyed.group (fun m => key m.2) (number rows')) with
    | error e =>
      obtain ⟨r, hr, hfail⟩ := (evaluatePartitions_error key rows').1 ⟨e, hy⟩
      rw [← hsame r] at hfail
      obtain ⟨e', he⟩ :=
        (evaluatePartitions_error key rows).2 ⟨r, hperm.mem_iff.2 hr, hfail⟩
      rw [hx] at he
      cases he
    | ok results' =>
      refine .ok fun i j r hi hj => ?_
      obtain ⟨values, p, hvalues, hp, hvalue⟩ := exists_value hx hi
      obtain ⟨values', q, hvalues', hq, hvalue'⟩ := exists_value hy hj
      rw [← hsame r] at hvalues' hq
      rw [hvalues] at hvalues'
      cases hvalues'
      have hlt : p < (partitionOf key columns rows r).length :=
        (List.getElem?_eq_some_iff.1 hp).1
      rw [hvalue, hvalue', (List.getElem?_inj hlt (hnodup r)).1 (hp.trans hq.symm)]

end

end

/-- Of any two rows of a partition the order puts one first. -/
def Decisive (c : WindowCall) (s : Schema) (rows : List Row) : Prop :=
  rows.Pairwise fun r q =>
    (∀ n ∈ c.partitionBy, (s.read r n).same (s.read q n) = true) →
      ∃ o ∈ c.orderBy, (s.read r o.component).order (s.read q o.component) ≠ .eq

section
variable {c : WindowCall} {s : Schema} {rows rows' : List Row} {columns : SortColumns}
  {partitions : List Nat}

theorem Decisive.fellows_pairwise (h : Decisive c s rows)
    (hp : s.positions c.partitionBy = .ok partitions) (ho : sortColumns s c.orderBy = .ok columns)
    (r : Row) :
    (Keyed.fellows (Row.key · partitions) rows r).Pairwise fun q q' =>
      compareRows columns q q' ≠ .eq := by
  refine List.Pairwise.imp_of_mem (fun {q q'} hq hq' hqq' he => ?_) (h.filter _)
  have hsame : Key.same (Row.key q partitions) (Row.key q' partitions) = true := by
    have hq := (List.mem_filter.1 hq).2
    rw [Key.same_comm] at hq
    exact Key.same_trans hq (List.mem_filter.1 hq').2
  rw [Row.key, Row.key, Schema.cells_positions hp, Schema.cells_positions hp, Key.same_map] at hsame
  obtain ⟨o, hom, hne⟩ := hqq' hsame
  exact hne ((compareRows_eq_iff ho q q').1 he o hom)

/-- Sorted by a decisive order a partition is the same list in every order of the rows. -/
theorem Decisive.partitionOf_perm (h : Decisive c s rows) (hperm : rows.Perm rows')
    (hrows : ∀ r ∈ rows, s.Admits r) (hp : s.positions c.partitionBy = .ok partitions)
    (ho : sortColumns s c.orderBy = .ok columns) (r : Row) :
    partitionOf (Row.key · partitions) columns rows r =
      partitionOf (Row.key · partitions) columns rows' r :=
  Sorting.sort_eq_of_perm (compareRows_orderedOn ho) (hperm.filter _)
    (fun q hq => hrows q (List.mem_of_mem_filter hq)) (h.fellows_pairwise hp ho r)

theorem Decisive.nodup_partitionOf (h : Decisive c s rows)
    (hp : s.positions c.partitionBy = .ok partitions) (ho : sortColumns s c.orderBy = .ok columns)
    (r : Row) : (partitionOf (Row.key · partitions) columns rows r).Nodup := by
  rw [partitionOf, (Sorting.sort_perm _ _).nodup_iff]
  refine (h.fellows_pairwise hp ho r).imp fun {q q'} hne he => hne ?_
  rw [he]
  exact (compareRows_orderedOn ho).self q'

end

/-- Each row has the same value in both datasets. -/
structure Agreeing (d e : Dataset) (vs ws : List Value) : Prop where
  length_left : vs.length = d.rows.length
  length_right : ws.length = e.rows.length
  values : ∀ (i j : Nat) (r : Row), d.rows[i]? = some r → e.rows[j]? = some r → vs[i]? = ws[j]?

/-- Under an order that is decisive in each partition a window function fails in every order of the
    rows or in none, and gives each row the same value in all of them. -/
theorem evaluate_rearranged {d e : Dataset} {c : WindowCall} (h : d.Rearranged e)
    (hd : d.Conforms) (hc : Decisive c d.schema d.rows) :
    Matched (Agreeing d e) (evaluate d.rows d.schema c) (evaluate e.rows e.schema c) := by
  unfold evaluate
  rw [h.schema]
  refine .bind_same _ fun source _ => ?_
  refine .bind_same _ fun partitions hp => .bind_same _ fun columns ho => ?_
  have hp := liftModel_ok hp
  have ho := liftModel_ok ho
  refine (evaluatePartitions_matched h.rows (hc.partitionOf_perm h.rows hd hp ho)
    (hc.nodup_partitionOf hp ho)).bind fun results results' _ _ hvalues => ?_
  refine .ok ⟨?_, ?_, hvalues⟩
  · rw [arrange, List.length_map, List.length_range]
  · rw [arrange, List.length_map, List.length_range]

end Window

def tallyTurned : Dataset := { tally with rows := tally.rows.reverse }

def runningSum : WindowCall where
  function := .sum
  source := "m"
  target := "s"
  orderBy := [⟨"k", true⟩]

set_option maxRecDepth 4000 in
theorem Window.evaluate_rearranged_tally :
    ∃ vs ws, Window.evaluate tally.rows tally.schema runningSum = .ok vs ∧
      Window.evaluate tallyTurned.rows tallyTurned.schema runningSum = .ok ws ∧
      vs = [.integer 12, .integer 7] ∧ ws = [.integer 7, .integer 12] := by
  have hturned : tally.Rearranged tallyTurned := ⟨rfl, (List.reverse_perm _).symm⟩
  have hd : tally.Conforms := by
    unfold Dataset.Conforms Schema.Admits Conform
    decide
  have hc : Decisive runningSum tally.schema tally.rows := by
    unfold Decisive
    decide
  have hv : Window.evaluate tally.rows tally.schema runningSum =
      .ok [.integer 12, .integer 7] := rfl
  have hm := evaluate_rearranged hturned hd hc
  rw [hv] at hm
  generalize hw : Window.evaluate tallyTurned.rows tallyTurned.schema runningSum = outcome at hm
  cases hm with
  | @ok _ ws hagree =>
    refine ⟨_, ws, hv, rfl, rfl, ?_⟩
    have h0 := hagree.values 1 0 _ rfl rfl
    have h1 := hagree.values 0 1 _ rfl rfl
    refine List.ext_getElem? fun i => ?_
    match i with
    | 0 => exact h0.symm
    | 1 => exact h1.symm
    | i + 2 =>
      have hlen : ws.length = 2 := hagree.length_right
      rw [List.getElem?_eq_none (by omega), List.getElem?_eq_none (by simp)]

end Tabular
