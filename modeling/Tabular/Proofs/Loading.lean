import Tabular.Dataset.Load
import Tabular.Proofs.Order.Rows
import Tabular.Proofs.Texts

set_option autoImplicit false

namespace Tabular.Dataset

variable {s : Schema} {header cells : List String}

/-- The header names components of the structure, each at most once. -/
def Fits (s : Schema) (header : List String) : Prop := header.Nodup ∧ header ⊆ s.names

theorem mapHeader_ok {seen columns : List Nat}
    (h : mapHeader s seen header = .ok columns) :
    List.Forall₂ (fun n i => s.indexOf? n = some i) header columns ∧ header.Nodup ∧
      ∀ n ∈ header, ∀ i ∈ seen, s.indexOf? n ≠ some i := by
  induction header generalizing seen columns with
  | nil =>
    cases h
    exact ⟨.nil, .nil, nofun⟩
  | cons name header ih =>
    rw [mapHeader] at h
    split at h
    · cases h
    · rename_i i hi
      split at h
      · cases h
      · rename_i hseen
        obtain ⟨rest, hr, h⟩ := ok_of_bind h
        cases eq_of_pure_ok h
        obtain ⟨hf, hn, hd⟩ := ih hr
        refine ⟨.cons hi hf, List.nodup_cons.2 ⟨fun hm => ?_, hn⟩, List.forall_mem_cons.2 ⟨?_, ?_⟩⟩
        · exact hd name hm i (List.mem_cons_self ..) hi
        · rintro j hj hij
          cases hi.symm.trans hij
          exact hseen (List.contains_iff_mem.2 hj)
        · exact fun m hm j hj => hd m hm j (List.mem_cons_of_mem _ hj)

theorem exists_mapHeader (hfits : Fits s header) {seen : List Nat}
    (hseen : ∀ n ∈ header, ∀ i ∈ seen, s.indexOf? n ≠ some i) :
    ∃ columns, mapHeader s seen header = .ok columns := by
  induction header generalizing seen with
  | nil => exact ⟨[], rfl⟩
  | cons name header ih =>
    obtain ⟨hnew, hn⟩ := List.nodup_cons.1 hfits.1
    obtain ⟨hname, hs⟩ := List.cons_subset.1 hfits.2
    obtain ⟨i, hi⟩ := Schema.exists_indexOf? hname
    have hout : ¬ seen.contains i = true := fun hc =>
      hseen name (List.mem_cons_self ..) i (List.contains_iff_mem.1 hc) hi
    have hrest : ∀ m ∈ header, ∀ j ∈ i :: seen, s.indexOf? m ≠ some j := by
      intro m hm j hj hmj
      rcases List.mem_cons.1 hj with rfl | hj
      · exact hnew (Schema.indexOf?_inj hi hmj ▸ hm)
      · exact hseen m (List.mem_cons_of_mem _ hm) j hj hmj
    obtain ⟨columns, hc⟩ := ih ⟨hn, hs⟩ hrest
    refine ⟨i :: columns, ?_⟩
    rw [mapHeader, hi]
    dsimp only
    rw [if_neg hout, hc]
    rfl

theorem fits_of_mapHeader {columns : List Nat} (h : mapHeader s [] header = .ok columns) :
    Fits s header := by
  obtain ⟨hf, hn, _⟩ := mapHeader_ok h
  refine ⟨hn, fun n hm => ?_⟩
  obtain ⟨i, _, hi⟩ := exists_zip_of_mem hf hm
  exact Schema.mem_names_of_indexOf? hi

/-- An empty cell stands for null, another one for what its text reads as in the type. -/
def CellReads (type : ScalarType) (text : String) (v : Value) : Prop :=
  if text = "" then v = .null else Value.parse? type text = some v

theorem CellReads.conforms {type : ScalarType} {text : String} {v : Value}
    (h : CellReads type text v) : v.conforms type = true := by
  unfold CellReads at h
  split at h
  · rw [h]
    rfl
  · exact Value.conforms_iff.2 (.inr (Value.type_of_parse? h))

theorem CellReads.unique {type : ScalarType} {text : String} {v w : Value}
    (hv : CellReads type text v) (hw : CellReads type text w) : v = w := by
  unfold CellReads at hv hw
  split at hv
  · rw [if_pos ‹_›] at hw
    exact hv.trans hw.symm
  · rw [if_neg ‹_›] at hw
    exact Option.some_inj.1 (hv.symm.trans hw)

/-- The row that the cells under a header stand for. What the header does not name is null. -/
structure Parses (s : Schema) (header cells : List String) (r : Row) : Prop where
  arity : cells.length = header.length
  length : r.length = s.size
  mapped : ∀ c ∈ s.components, ∀ text, (c.name, text) ∈ header.zip cells →
    CellReads c.type text (s.read r c.name)
  padded : ∀ n ∉ header, s.read r n = .null

theorem Parses.exists_cell {r : Row} (h : Parses s header cells r) {n : String}
    (hn : n ∈ header) : ∃ text, (n, text) ∈ header.zip cells := by
  rw [← List.map_fst_zip (Nat.le_of_eq h.arity.symm)] at hn
  obtain ⟨⟨m, text⟩, hz, rfl⟩ := List.mem_map.1 hn
  exact ⟨text, hz⟩

theorem Parses.admits {r : Row} (h : Parses s header cells r) : s.Admits r := by
  refine Schema.admits_of_reads h.length fun c hc => ?_
  by_cases hn : c.name ∈ header
  · obtain ⟨text, hz⟩ := h.exists_cell hn
    exact (h.mapped c hc text hz).conforms
  · rw [h.padded c.name hn]
    rfl

theorem Parses.unique {q r : Row} (hq : Parses s header cells q)
    (hr : Parses s header cells r) : q = r := by
  rw [Schema.eq_map_read hq.length, Schema.eq_map_read hr.length]
  refine List.map_congr_left fun c hc => ?_
  by_cases hn : c.name ∈ header
  · obtain ⟨text, hz⟩ := hq.exists_cell hn
    exact (hq.mapped c hc text hz).unique (hr.mapped c hc text hz)
  · rw [hq.padded c.name hn, hr.padded c.name hn]

/-- Some cell under the header does not read as a value of its component, and `e` says so. -/
def Illegible (s : Schema) (header cells : List String) (e : ModelError) : Prop :=
  ∃ c ∈ s.components, ∃ text, (c.name, text) ∈ header.zip cells ∧ text ≠ "" ∧
    Value.parse? c.type text = none ∧ e = .valueType c.name c.type text

structure Filled (s : Schema) (r : Row) (header cells : List String) (r' : Row) : Prop where
  length : r'.length = r.length
  mapped : ∀ c ∈ s.components, ∀ text, (c.name, text) ∈ header.zip cells →
    CellReads c.type text (s.read r' c.name)
  kept : ∀ n ∉ header, s.read r' n = s.read r n

section
variable {r r' : Row} {c : Component}

theorem Filled.skip {text : String} (h : Filled s r header cells r') (hnew : c.name ∉ header)
    (hnull : s.read r c.name = .null) (ht : text = "") :
    Filled s r (c.name :: header) (text :: cells) r' where
  length := h.length
  mapped d hd text' hz := by
    rcases List.mem_cons.1 hz with heq | hz
    · injection heq with hname htext
      rw [hname, h.kept c.name hnew, hnull, CellReads, if_pos (htext.trans ht)]
    · exact h.mapped d hd text' hz
  kept n hn := h.kept n fun hm => hn (List.mem_cons_of_mem _ hm)

theorem Filled.put {i : Nat} {text : String} {v : Value}
    (h : Filled s (r.set i v) header cells r') (hc : c ∈ s.components) (hnew : c.name ∉ header)
    (hi : s.indexOf? c.name = some i) (hr : r.length = s.size) (ht : text ≠ "")
    (hv : Value.parse? c.type text = some v) :
    Filled s r (c.name :: header) (text :: cells) r' where
  length := by rw [h.length, List.length_set]
  mapped d hd text' hz := by
    rcases List.mem_cons.1 hz with heq | hz
    · injection heq with hname htext
      rw [Schema.eq_of_name_eq hd hc hname, htext, h.kept c.name hnew,
        Schema.read_set_self hi hr, CellReads, if_neg ht]
      exact hv
    · exact h.mapped d hd text' hz
  kept n hn := by
    rw [h.kept n (List.not_mem_of_not_mem_cons hn),
      Schema.read_set_of_ne hi (List.ne_of_not_mem_cons hn)]

/-- Cells are filled in one by one, unless one of them is illegible. -/
theorem fillCells_spec {columns : List Nat}
    (hf : List.Forall₂ (fun n i => s.indexOf? n = some i) header columns) (hn : header.Nodup)
    (hl : cells.length = header.length) (hr : r.length = s.size)
    (hnull : ∀ n ∈ header, s.read r n = .null) :
    (∃ r', fillCells s r (columns.zip cells) = .ok r' ∧ Filled s r header cells r') ∨
      ∃ e, fillCells s r (columns.zip cells) = .error e ∧ Illegible s header cells e := by
  induction hf generalizing cells r with
  | nil => exact .inl ⟨r, rfl, ⟨rfl, (fun _ _ _ hz => nomatch hz), fun _ _ => rfl⟩⟩
  | @cons n i header columns hi hf ih =>
    obtain ⟨text, cells, rfl⟩ := List.exists_cons_of_length_eq_add_one hl
    obtain ⟨c, hget, rfl⟩ := Schema.getElem?_of_indexOf? hi
    have hl : cells.length = header.length := Nat.succ.inj hl
    obtain ⟨hnew, hn⟩ := List.nodup_cons.1 hn
    obtain ⟨hhead, hnull⟩ := List.forall_mem_cons.1 hnull
    have hc := List.mem_of_getElem? hget
    have hill {e : ModelError} (h : Illegible s header cells e) :
        Illegible s (c.name :: header) (text :: cells) e := by
      obtain ⟨d, hd, text', hz, h⟩ := h
      exact ⟨d, hd, text', List.mem_cons_of_mem _ hz, h⟩
    rw [List.zip_cons_cons, fillCells]
    by_cases ht : text = ""
    · rw [if_pos (by simpa using ht)]
      rcases ih hn hl hr hnull with ⟨r', hok, hfill⟩ | ⟨e, herr, he⟩
      · exact .inl ⟨r', hok, hfill.skip hnew hhead ht⟩
      · exact .inr ⟨e, herr, hill he⟩
    · -- The value goes into a column that no later name of the header stands for.
      rw [if_neg (by simpa using ht), hget]
      dsimp only
      cases hv : Value.parse? c.type text with
      | none => exact .inr ⟨_, rfl, c, hc, text, List.mem_cons_self .., ht, hv, rfl⟩
      | some v =>
        have hrest : ∀ n ∈ header, s.read (r.set i v) n = .null := by
          intro n hm
          rw [Schema.read_set_of_ne hi (fun h => hnew (h ▸ hm)), hnull n hm]
        rcases ih hn hl (r.length_set.trans hr) hrest with ⟨r', hok, hfill⟩ | ⟨e, herr, he⟩
        · exact .inl ⟨r', hok, hfill.put hc hnew hi hr ht hv⟩
        · exact .inr ⟨e, herr, hill he⟩

end

theorem Illegible.not_parses {e : ModelError} (h : Illegible s header cells e) (r : Row) :
    ¬ Parses s header cells r := by
  obtain ⟨c, hc, text, hz, ht, hv, _⟩ := h
  intro hp
  have hreads := hp.mapped c hc text hz
  rw [CellReads, if_neg ht, hv] at hreads
  cases hreads

theorem Illegible.ne_duplicate {e : ModelError} (h : Illegible s header cells e) (k : Key) :
    e ≠ .duplicateIdentifier k := by
  obtain ⟨c, _, text, _, _, _, rfl⟩ := h
  nofun

theorem parseRow_spec {columns : List Nat}
    (hf : List.Forall₂ (fun n i => s.indexOf? n = some i) header columns) (hn : header.Nodup)
    (n : Nat) (cells : List String) :
    (∃ r, parseRow s columns n cells = .ok r ∧ Parses s header cells r) ∨
      ∃ e, parseRow s columns n cells = .error e ∧ (∀ r, ¬ Parses s header cells r) ∧
        ∀ k, e ≠ .duplicateIdentifier k := by
  rw [parseRow]
  by_cases hl : cells.length = header.length
  · rw [if_pos (hl.trans hf.length_eq)]
    have hnull := s.read_nulls s.size
    rcases fillCells_spec hf hn hl List.length_replicate fun n _ => hnull n with
      ⟨r, hok, hfill⟩ | ⟨e, herr, he⟩
    · exact .inl ⟨r, hok, hl, hfill.length.trans List.length_replicate, hfill.mapped,
        fun m hm => (hfill.kept m hm).trans (hnull m)⟩
    · exact .inr ⟨e, herr, he.not_parses, he.ne_duplicate⟩
  · rw [if_neg fun h => hl (h.trans hf.length_eq.symm)]
    exact .inr ⟨_, rfl, fun r hp => hl hp.arity, nofun⟩

/-- Input row number `n` parses to `r`. -/
def ParsesAt (s : Schema) (header : List String) (inputs : List (List String × Nat)) (n : Nat)
    (r : Row) : Prop :=
  ∃ cells, (cells, n) ∈ inputs ∧ Parses s header cells r

/-- What becomes of numbered rows of input where rows with the keys `seen` stand already: the rows
    that are loaded, with their numbers, and the failures.

    A row is loaded if it parses and its key is that of no row loaded before it. The others fail,
    with the error of a repeated key those that parse and no others. -/
structure Ingests (s : Schema) (header : List String) (seen : List Key)
    (inputs : List (List String × Nat)) (entries : List (Nat × Row))
    (failures : List RowFailure) : Prop where
  counted : entries.length + failures.length = inputs.length
  ordered : entries.Pairwise fun p q => p.1 < q.1
  loaded : ∀ n r, (n, r) ∈ entries ↔ ParsesAt s header inputs n r ∧
    (∀ k ∈ seen, Key.same k (Row.key r s.identifierIndices) = false) ∧
    ∀ m q, (m, q) ∈ entries → m < n →
      Key.same (Row.key q s.identifierIndices) (Row.key r s.identifierIndices) = false
  increasing : failures.Pairwise fun f g => f.row < g.row
  failed : ∀ n, (∃ f ∈ failures, f.row = n) ↔
    (∃ cells, (cells, n) ∈ inputs) ∧ ∀ r, (n, r) ∉ entries
  repeated : ∀ f ∈ failures, ∀ r, ParsesAt s header inputs f.row r →
    f.error = .duplicateIdentifier (Row.key r s.identifierIndices)
  unparsed : ∀ f ∈ failures, ∀ k, f.error = .duplicateIdentifier k →
    ∃ r, ParsesAt s header inputs f.row r

section
variable {seen : List Key} {inputs : List (List String × Nat)} {entries : List (Nat × Row)}
  {failures : List RowFailure} {n : Nat} {r : Row}

theorem parsesAt_cons {m : Nat} : ParsesAt s header ((cells, n) :: inputs) m r ↔
    m = n ∧ Parses s header cells r ∨ ParsesAt s header inputs m r := by
  constructor
  · rintro ⟨cells', hm, hp⟩
    rcases List.mem_cons.1 hm with heq | hm
    · cases heq
      exact .inl ⟨rfl, hp⟩
    · exact .inr ⟨cells', hm, hp⟩
  · rintro (⟨rfl, hp⟩ | ⟨cells', hm, hp⟩)
    · exact ⟨cells, List.mem_cons_self .., hp⟩
    · exact ⟨cells', List.mem_cons_of_mem _ hm, hp⟩

/-- The numbers of what is left are above `n`. -/
def Above (n : Nat) (inputs : List (List String × Nat)) : Prop := ∀ p ∈ inputs, n < p.2

theorem Above.lt_parsesAt (h : Above n inputs) {m : Nat} (hp : ParsesAt s header inputs m r) :
    n < m := by
  obtain ⟨cells, hm, _⟩ := hp
  exact h _ hm

theorem Ingests.lt_entry (h : Ingests s header seen inputs entries failures)
    (ha : Above n inputs) {m : Nat} {q : Row} (hm : (m, q) ∈ entries) : n < m :=
  ha.lt_parsesAt ((h.loaded m q).1 hm).1

theorem Ingests.lt_failure (h : Ingests s header seen inputs entries failures)
    (ha : Above n inputs) {f : RowFailure} (hf : f ∈ failures) : n < f.row := by
  obtain ⟨⟨cells, hm⟩, _⟩ := (h.failed f.row).1 ⟨f, hf, rfl⟩
  exact ha _ hm

theorem Ingests.parsesAt_failure (h : Ingests s header seen inputs entries failures)
    (ha : Above n inputs) {f : RowFailure} (hf : f ∈ failures) :
    ParsesAt s header ((cells, n) :: inputs) f.row r ↔ ParsesAt s header inputs f.row r := by
  rw [parsesAt_cons]
  have hlt := h.lt_failure ha hf
  exact ⟨fun hp => hp.resolve_left fun ⟨heq, _⟩ => by omega, .inr⟩

theorem Ingests.nil : Ingests s header seen [] [] [] where
  counted := rfl
  ordered := .nil
  loaded _ _ := ⟨nofun, fun ⟨⟨_, hm, _⟩, _⟩ => nomatch hm⟩
  increasing := .nil
  failed _ := ⟨nofun, fun ⟨⟨_, hm⟩, _⟩ => nomatch hm⟩
  repeated := nofun
  unparsed := nofun

theorem Ingests.reject (h : Ingests s header seen inputs entries failures) (ha : Above n inputs)
    {e : ModelError}
    (hskip : ∀ r, Parses s header cells r →
      ∃ k ∈ seen, Key.same k (Row.key r s.identifierIndices) = true)
    (hrepeated : ∀ r, Parses s header cells r →
      e = .duplicateIdentifier (Row.key r s.identifierIndices))
    (hunparsed : ∀ k, e = .duplicateIdentifier k → ∃ r, Parses s header cells r) :
    Ingests s header seen ((cells, n) :: inputs) entries (⟨n, e⟩ :: failures) where
  counted := congrArg (· + 1) h.counted
  ordered := h.ordered
  loaded m q := by
    rw [h.loaded, parsesAt_cons]
    constructor
    · exact fun ⟨hp, hrest⟩ => ⟨.inr hp, hrest⟩
    · rintro ⟨⟨_, hp⟩ | hp, hseen, hrest⟩
      -- The row itself is not loaded, so it keeps out no row after it.
      · obtain ⟨k, hk, hsame⟩ := hskip q hp
        rw [hseen k hk] at hsame
        cases hsame
      · exact ⟨hp, hseen, hrest⟩
  increasing := .cons (fun f hf => h.lt_failure ha hf) h.increasing
  failed m := by
    constructor
    · rintro ⟨f, hf, rfl⟩
      rcases List.mem_cons.1 hf with rfl | hf
      · exact ⟨⟨cells, List.mem_cons_self ..⟩, fun q hq => Nat.lt_irrefl _ (h.lt_entry ha hq)⟩
      · obtain ⟨⟨cells', hm⟩, hout⟩ := (h.failed f.row).1 ⟨f, hf, rfl⟩
        exact ⟨⟨cells', List.mem_cons_of_mem _ hm⟩, hout⟩
    · rintro ⟨⟨cells', hm⟩, hout⟩
      rcases List.mem_cons.1 hm with heq | hm
      · cases heq
        exact ⟨_, List.mem_cons_self .., rfl⟩
      · obtain ⟨f, hf, hrow⟩ := (h.failed m).2 ⟨⟨cells', hm⟩, hout⟩
        exact ⟨f, List.mem_cons_of_mem _ hf, hrow⟩
  repeated f hf r hp := by
    rcases List.mem_cons.1 hf with rfl | hf
    · rcases parsesAt_cons.1 hp with ⟨_, hp⟩ | hp
      · exact hrepeated r hp
      · exact absurd (ha.lt_parsesAt hp) (Nat.lt_irrefl _)
    · exact h.repeated f hf r ((h.parsesAt_failure ha hf).1 hp)
  unparsed f hf k he := by
    rcases List.mem_cons.1 hf with rfl | hf
    · obtain ⟨r, hp⟩ := hunparsed k he
      exact ⟨r, parsesAt_cons.2 (.inl ⟨rfl, hp⟩)⟩
    · obtain ⟨r, hp⟩ := h.unparsed f hf k he
      exact ⟨r, (h.parsesAt_failure ha hf).2 hp⟩

theorem Ingests.take
    (h : Ingests s header (Row.key r s.identifierIndices :: seen) inputs entries failures)
    (ha : Above n inputs) (hp : Parses s header cells r)
    (hnew : ∀ k ∈ seen, Key.same k (Row.key r s.identifierIndices) = false) :
    Ingests s header seen ((cells, n) :: inputs) ((n, r) :: entries) failures where
  counted := by
    have hcount := h.counted
    rw [List.length_cons, List.length_cons]
    omega
  ordered := .cons (fun p hm => h.lt_entry ha hm) h.ordered
  loaded m q := by
    rw [parsesAt_cons]
    constructor
    · intro hm
      rcases List.mem_cons.1 hm with heq | hm
      · cases heq
        refine ⟨.inl ⟨rfl, hp⟩, hnew, fun m' q' hm' hlt => ?_⟩
        rcases List.mem_cons.1 hm' with heq | hm'
        · cases heq
          exact absurd hlt (Nat.lt_irrefl _)
        · exact absurd hlt (Nat.lt_asymm (h.lt_entry ha hm'))
      -- For the rows after it the new row is one loaded before, whose key they have as taken.
      · obtain ⟨hq, hseen, hbefore⟩ := (h.loaded m q).1 hm
        obtain ⟨hfirst, hseen⟩ := List.forall_mem_cons.1 hseen
        refine ⟨.inr hq, hseen, fun m' q' hm' hlt => ?_⟩
        rcases List.mem_cons.1 hm' with heq | hm'
        · cases heq
          exact hfirst
        · exact hbefore m' q' hm' hlt
    · rintro ⟨⟨rfl, hq⟩ | hq, hseen, hbefore⟩
      · rw [hq.unique hp]
        exact List.mem_cons_self ..
      · have hfirst := hbefore n r (List.mem_cons_self ..) (ha.lt_parsesAt hq)
        exact List.mem_cons_of_mem _ ((h.loaded m q).2 ⟨hq, List.forall_mem_cons.2 ⟨hfirst, hseen⟩,
          fun m' q' hm' => hbefore m' q' (List.mem_cons_of_mem _ hm')⟩)
  increasing := h.increasing
  failed m := by
    constructor
    · rintro ⟨f, hf, rfl⟩
      obtain ⟨⟨cells', hm⟩, hout⟩ := (h.failed f.row).1 ⟨f, hf, rfl⟩
      refine ⟨⟨cells', List.mem_cons_of_mem _ hm⟩, fun q hq => ?_⟩
      rcases List.mem_cons.1 hq with heq | hq
      · cases heq
        exact Nat.lt_irrefl _ (h.lt_failure ha hf)
      · exact hout q hq
    · rintro ⟨⟨cells', hm⟩, hout⟩
      rcases List.mem_cons.1 hm with heq | hm
      · cases heq
        exact absurd (List.mem_cons_self ..) (hout r)
      · exact (h.failed m).2 ⟨⟨cells', hm⟩, fun q hq => hout q (List.mem_cons_of_mem _ hq)⟩
  repeated f hf q hq := h.repeated f hf q ((h.parsesAt_failure ha hf).1 hq)
  unparsed f hf k he := by
    obtain ⟨q, hq⟩ := h.unparsed f hf k he
    exact ⟨q, (h.parsesAt_failure ha hf).2 hq⟩

theorem Ingests.distinct (h : Ingests s header seen inputs entries failures) :
    Distinct ⟨s, entries.map (·.2)⟩ := by
  refine List.pairwise_map.2 (h.ordered.imp_of_mem fun {p q} hp hq hlt => ?_)
  exact ((h.loaded q.1 q.2).1 hq).2.2 p.1 p.2 hp hlt

theorem Ingests.accepted (h : Ingests s header seen inputs entries failures) :
    ofRows s (entries.map (·.2)) = .ok ⟨s, entries.map (·.2)⟩ := by
  refine ofRows_of_conforms (fun r hr => ?_) h.distinct
  obtain ⟨⟨n, r⟩, hm, rfl⟩ := List.mem_map.1 hr
  obtain ⟨⟨cells, _, hp⟩, _⟩ := (h.loaded n r).1 hm
  exact hp.admits

theorem loadRows_spec {columns : List Nat}
    (hf : List.Forall₂ (fun n i => s.indexOf? n = some i) header columns) (hn : header.Nodup)
    (inputs : List (List String)) (n : Nat) (seen : List Key) :
    ∃ entries failures, loadRows s columns n seen inputs = (entries.map (·.2), failures) ∧
      Ingests s header seen (inputs.zipIdx n) entries failures := by
  induction inputs generalizing n seen with
  | nil => exact ⟨[], [], rfl, .nil⟩
  | cons cells inputs ih =>
    have ha : Above n (inputs.zipIdx (n + 1)) := fun p hp => List.le_snd_of_mem_zipIdx hp
    rw [List.zipIdx_cons]
    rcases parseRow_spec hf hn n cells with ⟨r, hr, hp⟩ | ⟨e, he, hp, hne⟩
    · cases hk : seen.any (Key.same · (Row.key r s.identifierIndices)) with
      | true =>
        obtain ⟨entries, failures, hrun, h⟩ := ih (n + 1) seen
        refine ⟨entries, ⟨n, .duplicateIdentifier (Row.key r s.identifierIndices)⟩ :: failures, ?_,
          h.reject ha (fun q hq => ?_) (fun q hq => ?_) fun _ _ => ⟨r, hp⟩⟩
        · simp only [loadRows, hr, hk, hrun, if_true]
        · rw [hq.unique hp]
          exact List.any_eq_true.1 hk
        · rw [hq.unique hp]
      | false =>
        obtain ⟨entries, failures, hrun, h⟩ := ih (n + 1) (Row.key r s.identifierIndices :: seen)
        refine ⟨(n, r) :: entries, failures, ?_, h.take ha hp fun k hm => ?_⟩
        · simp only [loadRows, hr, hk, hrun, List.map_cons]
          rfl
        · exact Bool.eq_false_iff.2 (List.any_eq_false.1 hk k hm)
    · obtain ⟨entries, failures, hrun, h⟩ := ih (n + 1) seen
      refine ⟨entries, ⟨n, e⟩ :: failures, ?_, h.reject ha (fun r hr => absurd hr (hp r))
        (fun r hr => absurd hr (hp r)) fun k hk => absurd hk (hne k)⟩
      simp only [loadRows, he, hrun]

end

/-- Under a header that fits, every input is loaded: what is loaded is accepted as a dataset, and
    every row of the input is either loaded or fails. Under any other header nothing is loaded,
    whatever the rows are. -/
theorem load_spec (s : Schema) (header : List String) :
    (Fits s header → ∀ inputs, ∃ entries failures,
      load s header inputs = .ok ⟨⟨s, entries.map (·.2)⟩, failures⟩ ∧
      ofRows s (entries.map (·.2)) = .ok ⟨s, entries.map (·.2)⟩ ∧
      Ingests s header [] inputs.zipIdx entries failures) ∧
    (¬ Fits s header → ∃ e, ∀ inputs, load s header inputs = .error e) := by
  constructor
  · intro hfits inputs
    have hseen : ∀ n ∈ header, ∀ i ∈ ([] : List Nat), s.indexOf? n ≠ some i := nofun
    obtain ⟨columns, hc⟩ := exists_mapHeader hfits hseen
    obtain ⟨hf, hn, _⟩ := mapHeader_ok hc
    obtain ⟨entries, failures, hrun, h⟩ := loadRows_spec hf hn inputs 0 []
    refine ⟨entries, failures, ?_, h.accepted, h⟩
    simp only [load, hc, bind, Except.bind, hrun]
    rfl
  · intro hfits
    cases hc : mapHeader s [] header with
    | ok columns => exact absurd (fits_of_mapHeader hc) hfits
    | error e =>
      refine ⟨e, fun inputs => ?_⟩
      rw [load, hc]
      rfl

def mixedInputs : List (List String) := [["x", "1"], ["5", "1"], ["", "1"], ["7"]]

set_option maxRecDepth 4000 in
theorem load_mixedInputs : ∃ entries failures,
    load tally.schema ["m", "k"] mixedInputs = .ok ⟨⟨tally.schema, entries.map (·.2)⟩, failures⟩ ∧
      Ingests tally.schema ["m", "k"] [] mixedInputs.zipIdx entries failures ∧
      entries.map (·.2) = [[.integer 1, .integer 5]] ∧ failures.map (·.row) = [0, 2, 3] := by
  have hfits : Fits tally.schema ["m", "k"] := ⟨by decide, by decide⟩
  obtain ⟨entries, failures, hload, _, h⟩ :=
    (load_spec tally.schema ["m", "k"]).1 hfits mixedInputs
  refine ⟨entries, failures, hload, h, ?_⟩
  have hrun : load tally.schema ["m", "k"] mixedInputs = .ok ⟨⟨tally.schema,
      [[.integer 1, .integer 5]]⟩, [⟨0, .valueType "m" .integer "x"⟩,
      ⟨2, .duplicateIdentifier [.integer 1]⟩, ⟨3, .rowArity 3 2 1⟩]⟩ := rfl
  rw [hrun] at hload
  injection hload with hload
  injection hload with hdataset hfailures
  injection hdataset with _ hrows
  exact ⟨hrows.symm, hfailures ▸ rfl⟩

end Tabular.Dataset
