import Tabular.Proofs.Joining.Partners
import Tabular.Proofs.Order.Joins

set_option autoImplicit false

namespace Tabular

instance (d : Dataset) (names : List String) (key : Key) : Decidable (d.Meets names key) :=
  inferInstanceAs (Decidable (∃ q ∈ d.rows, Key.same (names.map (d.schema.read q)) key = true))

theorem Dataset.Meets.of_same {d : Dataset} {names : List String} {key key' : Key}
    (h : d.Meets names key) (hs : Key.same key key' = true) : d.Meets names key' := by
  obtain ⟨q, hq, hk⟩ := h
  exact ⟨q, hq, Key.same_trans hk hs⟩

namespace SetOp

def rowsIn (target : Schema) (d : Dataset) : List Row :=
  d.rows.map fun r => target.names.map (d.schema.read r)

/-- The dataset has a row with the key of a row in the columns of `target`. -/
def HasKey (target : Schema) (d : Dataset) (r : Row) : Prop :=
  d.Meets target.identifierNames (Row.key r target.identifierIndices)

instance (target : Schema) (d : Dataset) (r : Row) : Decidable (HasKey target d r) :=
  inferInstanceAs (Decidable (d.Meets _ _))

/-- The rows of datasets in order, without those whose key a dataset before theirs has. -/
def firstRows (target : Schema) (before : List Dataset) : List Dataset → List Row
  | [] => []
  | d :: ds =>
    (rowsIn target d).filter (fun r => ∀ e ∈ before, ¬ HasKey target e r) ++
      firstRows target (before ++ [d]) ds

theorem firstRows_pair (target : Schema) (d e : Dataset) :
    firstRows target [] [d, e] =
      rowsIn target d ++ (rowsIn target e).filter fun r => ¬ HasKey target d r := by
  simp [firstRows]

section
variable {target : Schema} {d : Dataset}

def keyed (target : Schema) (rows : List Row) : Keyed Row :=
  rows.map fun r => (Row.key r target.identifierIndices, r)

theorem read_names {n : String} (hn : n ∈ target.names) (f : String → Value) :
    target.read (target.names.map f) n = f n := by
  refine Schema.read_of_mem_zip ?_
  rw [← List.map_prod_left_eq_zip]
  exact List.mem_map_of_mem hn

theorem key_names (f : String → Value) :
    Row.key (target.names.map f) target.identifierIndices = target.identifierNames.map f := by
  rw [Schema.key_eq]
  exact List.map_congr_left fun n hn => read_names (target.identifierNames_subset hn) f

theorem unique_keyed (hd : Alignable target d) : (keyed target (rowsIn target d)).Unique := by
  rw [keyed, rowsIn, List.map_map]
  exact hd.1.unique hd.2 (fun r => key_names (d.schema.read r)) _

theorem aligned_eq (hd : Alignable target d) (hsub : target.components ⊆ d.schema.components) :
    aligned target d = .ok (keyed target (rowsIn target d)) := by
  obtain ⟨columns, hc⟩ := Schema.exists_positions fun n hn => Schema.names_subset hsub hn
  have hproject : ∀ r : Row, r.project columns = target.names.map (d.schema.read r) :=
    Schema.cells_positions hc
  have hu := unique_keyed hd
  rw [keyed, rowsIn, List.map_map] at hu ⊢
  rw [aligned, hc]
  change Except.ok (Keyed.ofList (d.rows.map fun r =>
    (Row.key (r.project columns) target.identifierIndices, r.project columns))) = _
  simp only [hproject]
  exact congrArg Except.ok (Keyed.ofList_of_unique hu)

theorem alignedAll_eq {ds : List Dataset}
    (hd : ∀ d ∈ ds, Alignable target d ∧ target.components ⊆ d.schema.components) :
    alignedAll target ds = .ok (ds.map fun d => keyed target (rowsIn target d)) := by
  induction ds with
  | nil => rfl
  | cons d ds ih =>
    obtain ⟨h, hrest⟩ := List.forall_mem_cons.1 hd
    rw [alignedAll, aligned_eq h.1 h.2, ih hrest]
    rfl

theorem rowsIn_self (hd : d.Conforms) : rowsIn d.schema d = d.rows := by
  have hrow : ∀ r ∈ d.rows, d.schema.names.map (d.schema.read r) = r := fun r hr => by
    rw [Schema.names, List.map_map]
    exact (Schema.eq_map_read (hd r hr).length_eq).symm
  rw [rowsIn, List.map_congr_left hrow, List.map_id']

theorem contains_keyed (rows : List Row) (key : Key) :
    (keyed target rows).contains key = true ↔
      Dataset.Meets ⟨target, rows⟩ target.identifierNames key := by
  simp [keyed, Keyed.contains, Dataset.Meets, Schema.key_eq]

theorem meets_rowsIn (key : Key) :
    Dataset.Meets ⟨target, rowsIn target d⟩ target.identifierNames key ↔
      d.Meets target.identifierNames key := by
  rw [← contains_keyed]
  simp [keyed, rowsIn, Keyed.contains, Dataset.Meets, key_names]

theorem contains_side (p : Row) :
    (keyed target (rowsIn target d)).contains (Row.key p target.identifierIndices) =
      decide (HasKey target d p) := by
  rw [Bool.eq_iff_iff, decide_eq_true_iff, contains_keyed, meets_rowsIn]
  rfl

theorem foldl_filter (keep : Keyed Row → Key × Row → Bool) (sides : List (Keyed Row))
    (acc : Keyed Row) :
    sides.foldl (fun acc side => acc.filter (keep side)) acc =
      acc.filter fun p => sides.all (keep · p) := by
  induction sides generalizing acc with
  | nil => simp
  | cons side sides ih =>
    rw [List.foldl_cons, ih, List.filter_filter]
    exact List.filter_congr fun p _ => Bool.and_comm ..

theorem filter_keyed {keep : Key × Row → Bool} {p : Row → Bool} {rows : List Row}
    (h : ∀ r, keep (Row.key r target.identifierIndices, r) = true ↔ p r = true) :
    (keyed target rows).filter keep = keyed target (rows.filter p) := by
  rw [keyed, List.filter_map]
  exact congrArg (List.map _) (List.filter_congr fun r _ => Bool.eq_iff_iff.2 (h r))

theorem keyed_append (rows more : List Row) :
    keyed target (rows ++ more) = keyed target rows ++ keyed target more := List.map_append

theorem map_keyed (rows : List Row) : (keyed target rows).map (·.2) = rows := by
  rw [keyed, List.map_map]
  exact List.map_id' rows

theorem foldl_intersect (rows : List Row) (ds : List Dataset) :
    (ds.map fun d => keyed target (rowsIn target d)).foldl SetOp.intersect.step
        (keyed target rows) =
      keyed target (rows.filter fun r => ∀ d ∈ ds, HasKey target d r) := by
  refine (foldl_filter (fun side p => Keyed.contains side p.1) _ _).trans (filter_keyed fun r => ?_)
  simp [contains_side]

theorem foldl_setdiff (rows : List Row) (ds : List Dataset) :
    (ds.map fun d => keyed target (rowsIn target d)).foldl SetOp.setdiff.step
        (keyed target rows) =
      keyed target (rows.filter fun r => ∀ d ∈ ds, ¬ HasKey target d r) := by
  refine (foldl_filter (fun side p => !Keyed.contains side p.1) _ _).trans
    (filter_keyed fun r => ?_)
  simp [contains_side]

/-- What has been collected has the keys of the datasets so far, and every further dataset adds the
    rows of its own keys. -/
theorem foldl_union {before ds : List Dataset} {rows : List Row}
    (hd : ∀ d ∈ ds, Alignable target d)
    (hb : ∀ key, (keyed target rows).contains key = true ↔
      ∃ e ∈ before, e.Meets target.identifierNames key) :
    (ds.map fun d => keyed target (rowsIn target d)).foldl SetOp.union.step (keyed target rows) =
        keyed target (rows ++ firstRows target before ds) ∧
      ∀ key, (keyed target (rows ++ firstRows target before ds)).contains key = true ↔
        ∃ e ∈ before ++ ds, e.Meets target.identifierNames key := by
  induction ds generalizing before rows with
  | nil => simpa [firstRows] using hb
  | cons d ds ih =>
    obtain ⟨h, hrest⟩ := List.forall_mem_cons.1 hd
    obtain ⟨fresh, hfresh⟩ : ∃ fresh, fresh = (rowsIn target d).filter fun r =>
      ∀ e ∈ before, ¬ HasKey target e r := ⟨_, rfl⟩
    have hstep : SetOp.union.step (keyed target rows) (keyed target (rowsIn target d)) =
        keyed target (rows ++ fresh) := by
      rw [step, Keyed.foldl_insertNew (unique_keyed h), keyed_append, hfresh]
      refine congrArg _ (filter_keyed fun r => ?_)
      rw [Bool.not_eq_true', ← Bool.not_eq_true, hb, decide_eq_true_iff]
      constructor
      · exact fun hx e he hk => hx ⟨e, he, hk⟩
      · rintro hx ⟨e, he, hk⟩
        exact hx e he hk
    have hkeys : ∀ key, (keyed target (rows ++ fresh)).contains key = true ↔
        ∃ e ∈ before ++ [d], e.Meets target.identifierNames key := by
      intro key
      have hor : (keyed target (rows ++ fresh)).contains key = true ↔
          (keyed target rows).contains key = true ∨ (keyed target fresh).contains key = true := by
        rw [keyed_append, Keyed.contains, List.any_append, Bool.or_eq_true]
        rfl
      rw [hor, hb, contains_keyed]
      constructor
      · rintro (⟨e, he, hm⟩ | ⟨q, hq, hs⟩)
        · exact ⟨e, List.mem_append_left _ he, hm⟩
        · rw [hfresh] at hq
          exact ⟨d, by simp, (meets_rowsIn key).1 ⟨q, List.mem_of_mem_filter hq, hs⟩⟩
      · rintro ⟨e, he, hm⟩
        by_cases hx : ∃ e ∈ before, e.Meets target.identifierNames key
        · exact .inl hx
        · rcases List.mem_append.1 he with he | he
          · exact absurd ⟨e, he, hm⟩ hx
          · cases List.mem_singleton.1 he
            obtain ⟨q, hq, hs⟩ := (meets_rowsIn key).2 hm
            have hnew : ∀ e ∈ before, ¬ HasKey target e q := fun e he hk => by
              rw [HasKey, Schema.key_eq] at hk
              exact hx ⟨e, he, hk.of_same hs⟩
            refine .inr ⟨q, ?_, hs⟩
            rw [hfresh]
            exact List.mem_filter.2 ⟨hq, decide_eq_true hnew⟩
    rw [List.map_cons, List.foldl_cons, hstep, firstRows, ← hfresh, ← List.append_assoc,
      show before ++ d :: ds = before ++ [d] ++ ds from List.append_cons ..]
    exact ih hrest hkeys

end

/-- Well-formed operands with the same components, in any order. -/
structure Combinable (first : Dataset) (rest : List Dataset) : Prop where
  compatible : ∀ d ∈ rest, first.schema.compatible d.schema = true
  conforms : ∀ d ∈ first :: rest, d.Conforms
  distinct : ∀ d ∈ first :: rest, d.Distinct

section
variable {first : Dataset} {rest : List Dataset}

theorem Combinable.rowsIn_first (h : Combinable first rest) :
    rowsIn first.schema first = first.rows :=
  rowsIn_self (h.conforms first (List.mem_cons_self ..))

theorem Combinable.alignable (h : Combinable first rest) :
    ∀ d ∈ first :: rest,
      Alignable first.schema d ∧ first.schema.components ⊆ d.schema.components := by
  intro d hd
  have hdistinct := h.distinct d hd
  rcases List.mem_cons.1 hd with rfl | hd
  · exact ⟨⟨hdistinct, List.Subset.refl _⟩, List.Subset.refl _⟩
  · have hc := h.compatible d hd
    exact ⟨⟨hdistinct, identifierNames_of_compatible hc⟩, subset_of_compatible hc⟩

theorem Combinable.evaluate_eq (h : Combinable first rest) (op : SetOp) :
    op.evaluate (first :: rest) = .ok ⟨first.schema,
      ((rest.map fun d => keyed first.schema (rowsIn first.schema d)).foldl op.step
        (keyed first.schema first.rows)).map (·.2)⟩ := by
  obtain ⟨hfirst, hrest⟩ := List.forall_mem_cons.1 h.alignable
  unfold evaluate
  dsimp only
  rw [aligned_eq hfirst.1 hfirst.2, alignedAll_eq hrest, h.rowsIn_first]
  rfl

theorem Combinable.union_eq (h : Combinable first rest) :
    SetOp.union.evaluate (first :: rest) =
        .ok ⟨first.schema, firstRows first.schema [] (first :: rest)⟩ ∧
      ∀ key, Dataset.Meets ⟨first.schema, firstRows first.schema [] (first :: rest)⟩
          first.schema.identifierNames key ↔
        ∃ d ∈ first :: rest, d.Meets first.schema.identifierNames key := by
  have hfresh : firstRows first.schema [] (first :: rest) =
      first.rows ++ firstRows first.schema [first] rest := by
    simp [firstRows, h.rowsIn_first]
  have hfirst : ∀ key, (keyed first.schema first.rows).contains key = true ↔
      ∃ e ∈ [first], e.Meets first.schema.identifierNames key := by
    intro key
    rw [contains_keyed]
    simp
  obtain ⟨hfold, hkeys⟩ := foldl_union
    (fun d hd => (h.alignable d (List.mem_cons_of_mem _ hd)).1) hfirst
  rw [h.evaluate_eq, hfold, map_keyed, hfresh]
  exact ⟨rfl, fun key => (contains_keyed _ key).symm.trans (hkeys key)⟩

theorem Combinable.intersect_eq (h : Combinable first rest) :
    SetOp.intersect.evaluate (first :: rest) =
      .ok ⟨first.schema, first.rows.filter fun r => ∀ d ∈ rest, HasKey first.schema d r⟩ := by
  rw [h.evaluate_eq, foldl_intersect, map_keyed]

theorem Combinable.setdiff_eq (h : Combinable first rest) :
    SetOp.setdiff.evaluate (first :: rest) =
      .ok ⟨first.schema, first.rows.filter fun r => ∀ d ∈ rest, ¬ HasKey first.schema d r⟩ := by
  rw [h.evaluate_eq, foldl_setdiff, map_keyed]

theorem Combinable.symdiff_eq {second : Dataset} (h : Combinable first [second]) :
    SetOp.symdiff.evaluate [first, second] =
      .ok ⟨first.schema, (first.rows.filter fun r => ¬ HasKey first.schema second r) ++
        (rowsIn first.schema second).filter fun r => ¬ HasKey first.schema first r⟩ := by
  have hkept : ((keyed first.schema first.rows).filter fun p =>
      !Keyed.contains (keyed first.schema (rowsIn first.schema second)) p.1) =
      keyed first.schema (first.rows.filter fun r => ¬ HasKey first.schema second r) :=
    filter_keyed fun r => by simp [contains_side]
  have hnew : ((keyed first.schema (rowsIn first.schema second)).filter fun p =>
      !Keyed.contains (keyed first.schema first.rows) p.1) =
      keyed first.schema
        ((rowsIn first.schema second).filter fun r => ¬ HasKey first.schema first r) :=
    filter_keyed fun r => by
      rw [← h.rowsIn_first]
      simp [contains_side]
  rw [h.evaluate_eq, List.map_singleton, List.foldl_cons, List.foldl_nil, step, hkept, hnew,
    ← keyed_append, map_keyed]

end

theorem compatible_symm {s t : Schema} (h : s.compatible t = true) : t.compatible s = true := by
  have hperm := perm_of_compatible h
  refine Bool.and_eq_true_iff.2 ⟨beq_iff_eq.2 hperm.length_eq.symm, List.all_eq_true.2 ?_⟩
  intro c hc
  exact beq_iff_eq.2 (Schema.get?_eq_some.2 ⟨hperm.mem_iff.2 hc, rfl⟩)

theorem meets_congr {d : Dataset} {names names' : List String} (h : ∀ n, n ∈ names ↔ n ∈ names')
    (f : String → Value) : d.Meets names (names.map f) ↔ d.Meets names' (names'.map f) := by
  refine exists_congr fun q => and_congr_right fun _ => ?_
  rw [Key.same_map, Key.same_map]
  exact ⟨fun hx n hn => hx n ((h n).2 hn), fun hx n hn => hx n ((h n).1 hn)⟩

theorem hasKey_congr {s t : Schema} (hn : ∀ n, n ∈ s.identifierNames ↔ n ∈ t.identifierNames)
    (d : Dataset) (f : String → Value) {q : Row}
    (hq : Row.key q s.identifierIndices = s.identifierNames.map f) :
    HasKey s d q ↔ HasKey t d (t.names.map f) := by
  rw [HasKey, HasKey, hq, key_names]
  exact meets_congr hn f

section
variable {first second : Dataset}

theorem Combinable.swap (h : Combinable first [second]) : Combinable second [first] where
  compatible d hd := by
    cases List.mem_singleton.1 hd
    exact compatible_symm (h.compatible second (List.mem_singleton.2 rfl))
  conforms d hd := h.conforms d (by simpa [or_comm] using hd)
  distinct d hd := h.distinct d (by simpa [or_comm] using hd)

theorem Combinable.filter (h : Combinable first [second]) (p q : Row → Bool) :
    Combinable ⟨first.schema, first.rows.filter p⟩ [⟨second.schema, second.rows.filter q⟩] where
  compatible d hd := by
    cases List.mem_singleton.1 hd
    exact h.compatible second (List.mem_singleton.2 rfl)
  conforms := by
    obtain ⟨hf, hs⟩ := List.forall_mem_cons.1 h.conforms
    refine List.forall_mem_cons.2 ⟨fun r hr => hf r (List.mem_of_mem_filter hr), ?_⟩
    exact List.forall_mem_singleton.2 fun r hr =>
      hs second (List.mem_singleton.2 rfl) r (List.mem_of_mem_filter hr)
  distinct := by
    obtain ⟨hf, hs⟩ := List.forall_mem_cons.1 h.distinct
    refine List.forall_mem_cons.2 ⟨List.Pairwise.filter p hf, ?_⟩
    exact List.forall_mem_singleton.2
      (List.Pairwise.filter q (hs second (List.mem_singleton.2 rfl)))

theorem Combinable.symdiff_eq_union (h : Combinable first [second]) :
    ∃ l r, SetOp.setdiff.evaluate [first, second] = .ok l ∧
      SetOp.setdiff.evaluate [second, first] = .ok r ∧
      SetOp.symdiff.evaluate [first, second] = SetOp.union.evaluate [l, r] := by
  obtain ⟨l, hl⟩ : ∃ l : Dataset, l = ⟨first.schema, first.rows.filter fun r =>
    ∀ d ∈ [second], ¬ HasKey first.schema d r⟩ := ⟨_, rfl⟩
  obtain ⟨r, hr⟩ : ∃ r : Dataset, r = ⟨second.schema, second.rows.filter fun r =>
    ∀ d ∈ [first], ¬ HasKey second.schema d r⟩ := ⟨_, rfl⟩
  have hpair : Combinable l [r] := by
    rw [hl, hr]
    exact h.filter _ _
  have hschema : l.schema = first.schema := by rw [hl]
  refine ⟨l, r, by rw [hl]; exact h.setdiff_eq, by rw [hr]; exact h.swap.setdiff_eq, ?_⟩
  have hnames : ∀ n, n ∈ second.schema.identifierNames ↔ n ∈ first.schema.identifierNames :=
    fun n => ⟨fun hn => identifierNames_of_compatible (h.compatible second (by simp)) hn,
      fun hn => identifierNames_of_compatible (h.swap.compatible first (by simp)) hn⟩
  have hleft : rowsIn first.schema l =
      first.rows.filter fun r => ¬ HasKey first.schema second r := by
    have hrows := hpair.rowsIn_first
    rw [hschema] at hrows
    rw [hrows, hl]
    simp
  have hright : rowsIn first.schema r =
      (rowsIn first.schema second).filter fun q => ¬ HasKey first.schema first q := by
    rw [rowsIn, rowsIn, List.filter_map, hr]
    refine congrArg (List.map _) (List.filter_congr fun q _ => ?_)
    simpa using hasKey_congr hnames first (second.schema.read q) (Schema.key_eq ..)
  have hnone : ∀ q, ¬ HasKey first.schema first q → ¬ HasKey first.schema l q := by
    rintro q hq ⟨p, hp, hs⟩
    rw [hl] at hp hs
    exact hq ⟨p, List.mem_of_mem_filter hp, hs⟩
  have hall : ((rowsIn first.schema r).filter fun q => ¬ HasKey first.schema l q) =
      rowsIn first.schema r := by
    refine List.filter_eq_self.2 fun q hq => decide_eq_true (hnone q ?_)
    rw [hright] at hq
    simpa using (List.mem_filter.1 hq).2
  rw [h.symdiff_eq, hpair.union_eq.1, firstRows_pair, hschema, hall, hright, hleft]

end

/-- With operands of the same components a union has of each key the row of the first operand that
    has it, in the order in which the keys are first met; an intersection has the rows of the first
    operand whose keys all others have and a difference those whose keys no other has; and a
    symmetric difference of two has the rows whose keys the other does not have, which is the union
    of the differences. -/
theorem keySets_of_evaluate {first : Dataset} {rest : List Dataset} (h : Combinable first rest) :
    (SetOp.union.evaluate (first :: rest) =
        .ok ⟨first.schema, firstRows first.schema [] (first :: rest)⟩ ∧
      ∀ key, Dataset.Meets ⟨first.schema, firstRows first.schema [] (first :: rest)⟩
          first.schema.identifierNames key ↔
        ∃ d ∈ first :: rest, d.Meets first.schema.identifierNames key) ∧
    SetOp.intersect.evaluate (first :: rest) =
      .ok ⟨first.schema, first.rows.filter fun r => ∀ d ∈ rest, HasKey first.schema d r⟩ ∧
    SetOp.setdiff.evaluate (first :: rest) =
      .ok ⟨first.schema, first.rows.filter fun r => ∀ d ∈ rest, ¬ HasKey first.schema d r⟩ ∧
    ∀ second, rest = [second] →
      SetOp.symdiff.evaluate [first, second] =
        .ok ⟨first.schema, (first.rows.filter fun r => ¬ HasKey first.schema second r) ++
          (rowsIn first.schema second).filter fun r => ¬ HasKey first.schema first r⟩ ∧
      ∃ l r, SetOp.setdiff.evaluate [first, second] = .ok l ∧
        SetOp.setdiff.evaluate [second, first] = .ok r ∧
        SetOp.symdiff.evaluate [first, second] = SetOp.union.evaluate [l, r] := by
  refine ⟨h.union_eq, h.intersect_eq, h.setdiff_eq, ?_⟩
  rintro second rfl
  exact ⟨h.symdiff_eq, h.symdiff_eq_union⟩

def yearly : Dataset where
  schema := ⟨[.identifier "year" .integer, .measure "amount" .integer], by decide, by decide⟩
  rows := [[.integer 1, .integer 10], [.integer 2, .integer 20]]

def turned : Dataset where
  schema := ⟨[.measure "amount" .integer, .identifier "year" .integer], by decide, by decide⟩
  rows := [[.integer 30, .integer 3], [.integer 25, .integer 2]]

theorem combinable_turned : Combinable yearly [turned] where
  compatible := by decide
  conforms := by
    unfold Dataset.Conforms Schema.Admits Conform
    decide
  distinct := by
    unfold Dataset.Distinct
    decide

theorem keySets_of_evaluate_turned :
    SetOp.union.evaluate [yearly, turned] = .ok ⟨yearly.schema,
      [[.integer 1, .integer 10], [.integer 2, .integer 20], [.integer 3, .integer 30]]⟩ ∧
    SetOp.intersect.evaluate [yearly, turned] =
      .ok ⟨yearly.schema, [[.integer 2, .integer 20]]⟩ ∧
    SetOp.setdiff.evaluate [yearly, turned] =
      .ok ⟨yearly.schema, [[.integer 1, .integer 10]]⟩ ∧
    SetOp.symdiff.evaluate [yearly, turned] =
      .ok ⟨yearly.schema, [[.integer 1, .integer 10], [.integer 3, .integer 30]]⟩ := by
  obtain ⟨⟨hunion, _⟩, hintersect, hsetdiff, hpair⟩ := keySets_of_evaluate combinable_turned
  exact ⟨hunion, hintersect, hsetdiff, (hpair turned rfl).1⟩

end SetOp
end Tabular
