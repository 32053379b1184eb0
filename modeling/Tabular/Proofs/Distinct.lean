import Mathlib.Data.List.ProdSigma
import Tabular.Proofs.Keys
import Tabular.Proofs.Structure
import Tabular.Proofs.Shape

set_option autoImplicit false

namespace Tabular

/-- No two rows have the same key. -/
def Dataset.Distinct (d : Dataset) : Prop :=
  d.rows.Pairwise fun q r => Key.same (d.rowKey q) (d.rowKey r) = false

section Joined

variable {α β : Type}

/-- `out` joins, in order, what each element gives. -/
inductive Joined (R : α → List β → Prop) : List α → List β → Prop
  | nil : Joined R [] []
  | cons {x : α} {xs : List α} {part out : List β} (hx : R x part) (hxs : Joined R xs out) :
      Joined R (x :: xs) (part ++ out)

namespace Joined

variable {R : α → List β → Prop} {xs : List α} {out : List β}

theorem exists_of_mem (h : Joined R xs out) {b : β} (hb : b ∈ out) :
    ∃ x ∈ xs, ∃ part, R x part ∧ b ∈ part := by
  induction h with
  | nil => cases hb
  | cons hx _ ih =>
    rcases List.mem_append.1 hb with hb | hb
    · exact ⟨_, List.mem_cons_self .., _, hx, hb⟩
    · obtain ⟨y, hy, part, hp, hm⟩ := ih hb
      exact ⟨y, List.mem_cons_of_mem _ hy, part, hp, hm⟩

theorem map {γ : Type} {f : α → γ} {S : γ → List β → Prop}
    (h : Joined (fun x part => S (f x) part) xs out) : Joined S (xs.map f) out := by
  induction h with
  | nil => exact .nil
  | cons hx _ ih => exact .cons hx ih

theorem of_map {γ : Type} {f : γ → α} {ys : List γ} (h : Joined R (ys.map f) out) :
    Joined (fun y part => R (f y) part) ys out := by
  induction ys generalizing out with
  | nil =>
    cases h
    exact .nil
  | cons y ys ih =>
    cases h with
    | cons hx hxs => exact .cons hx (ih hxs)

theorem append {ys : List α} {more : List β} (h : Joined R xs out) (hm : Joined R ys more) :
    Joined R (xs ++ ys) (out ++ more) := by
  induction h with
  | nil => exact hm
  | cons hx _ ih =>
    rw [List.cons_append, List.append_assoc]
    exact .cons hx ih

theorem imp {S : α → List β → Prop} (h : Joined R xs out)
    (hS : ∀ x ∈ xs, ∀ part, R x part → S x part) : Joined S xs out := by
  induction h with
  | nil => exact .nil
  | cons hx _ ih =>
    obtain ⟨h1, h2⟩ := List.forall_mem_cons.1 hS
    exact .cons (h1 _ hx) (ih h2)

theorem pairwise (h : Joined R xs out) {P : α → α → Prop} {Q : β → β → Prop}
    (hxs : xs.Pairwise P) (hin : ∀ x ∈ xs, ∀ part, R x part → part.Pairwise Q)
    (hacross : ∀ x y p q, P x y → R x p → R y q → ∀ b ∈ p, ∀ c ∈ q, Q b c) :
    out.Pairwise Q := by
  induction h with
  | nil => exact .nil
  | cons hx hr ih =>
    obtain ⟨hp, hxs⟩ := List.pairwise_cons.1 hxs
    obtain ⟨h1, h2⟩ := List.forall_mem_cons.1 hin
    refine List.pairwise_append.2 ⟨h1 _ hx, ih hxs h2, fun b hb c hc => ?_⟩
    obtain ⟨y, hy, q, hq, hm⟩ := hr.exists_of_mem hc
    exact hacross _ y _ q (hp y hy) hx hq b hb c hm

end Joined
end Joined

theorem pairwise_product {α β : Type} {xs : List α} {ys : List β} {P : α → α → Prop}
    {Q : β → β → Prop} {R : α × β → α × β → Prop} (hx : xs.Pairwise P) (hy : ys.Pairwise Q)
    (hP : ∀ x x' y y', P x x' → R (x, y) (x', y')) (hQ : ∀ x y y', Q y y' → R (x, y) (x, y')) :
    (xs ×ˢ ys).Pairwise R := by
  induction hx with
  | nil => exact .nil
  | cons hp _ ih =>
    rw [List.product_cons]
    refine List.pairwise_append.2 ⟨?_, ih, ?_⟩
    · exact List.pairwise_map.2 (hy.imp (hQ _ _ _))
    · intro p hm q hn
      obtain ⟨y, _, rfl⟩ := List.mem_map.1 hm
      exact hP _ _ _ _ (hp q.1 (List.mem_product.1 hn).1)

/-- Nothing, or one row that starts with the given cells. -/
def Extends (start : Row) (part : List Row) : Prop :=
  part = [] ∨ ∃ more, part = [start ++ more]

/-- Each element of a list gives a row or nothing, and the row starts with the cells that the
    element has for the identifiers. -/
structure Dataset.From {α : Type} (e : Dataset) (ids : List Component) (start : α → Key)
    (xs : List α) : Prop where
  components : ∃ others, e.schema.components = ids ++ others ∧
    ∀ c ∈ others, c.isIdentifier = false
  identifiers : ∀ c ∈ ids, c.isIdentifier = true
  length : ∀ x, (start x).length = ids.length
  joined : Joined (fun x part => Extends (start x) part) xs e.rows

namespace Dataset.From

variable {α : Type} {e : Dataset} {ids : List Component} {start : α → Key} {xs : List α}

theorem rowKey (h : e.From ids start xs) {x : α} {part : List Row} {r : Row}
    (hp : Extends (start x) part) (hr : r ∈ part) : e.rowKey r = start x := by
  obtain ⟨others, hc, ho⟩ := h.components
  rcases hp with rfl | ⟨more, rfl⟩
  · cases hr
  · rw [List.mem_singleton.1 hr, Dataset.rowKey,
      Schema.key_append hc h.identifiers ho (h.length x)]

theorem distinct (h : e.From ids start xs)
    (hx : xs.Pairwise fun x y => Key.same (start x) (start y) = false) : e.Distinct := by
  refine h.joined.pairwise hx ?_ ?_
  · rintro x _ part (rfl | ⟨more, rfl⟩)
    · exact .nil
    · exact List.pairwise_singleton _ _
  · intro x y p q hxy hp hq b hb c hc
    rw [h.rowKey hp hb, h.rowKey hq hc]
    exact hxy

end Dataset.From

namespace Dataset

theorem distinct_of_reads {d e : Dataset} (hd : d.Distinct)
    (hids : d.schema.identifierNames ⊆ e.schema.identifierNames)
    (hrows : List.Forall₂ (fun r q => ∀ n ∈ d.schema.identifierNames,
      e.schema.read q n = d.schema.read r n) d.rows e.rows) : e.Distinct := by
  unfold Distinct rowKey at hd ⊢
  simp only [Schema.key_eq] at hd ⊢
  generalize d.rows = rows, e.rows = rows' at hd hrows
  induction hrows with
  | nil => exact .nil
  | cons hr hrest ih =>
    rename_i r q rows rows'
    obtain ⟨hp, hd⟩ := List.pairwise_cons.1 hd
    refine List.pairwise_cons.2 ⟨fun q' hq' => ?_, ih hd⟩
    obtain ⟨r', hmem, hr'⟩ := exists_left_of_mem hrest hq'
    refine Bool.eq_false_iff.2 fun hs => Bool.eq_false_iff.1 (hp r' hmem) ?_
    refine Key.same_map.2 fun n hn => ?_
    rw [← hr n hn, ← hr' n hn]
    exact Key.same_map.1 hs n (hids hn)

theorem rename_rowKey {d e : Dataset} {pairs : List (String × String)}
    (h : d.rename pairs = .ok e) : e.rows = d.rows ∧ e.rowKey = d.rowKey := by
  have hs := Schema.rename_ok (rename_schema h)
  have hi : e.schema.identifierIndices = d.schema.identifierIndices := by
    rw [Schema.identifierIndices, hs,
      Schema.indicesFrom_map (Schema.renameComponent_isIdentifier pairs)]
    rfl
  refine ⟨?_, funext fun r => by rw [rowKey, rowKey, hi]⟩
  obtain ⟨_, _, h⟩ := ok_of_bind h
  cases eq_of_pure_ok h
  rfl

theorem distinct_rename {d e : Dataset} {pairs : List (String × String)} (hd : d.Distinct)
    (h : d.rename pairs = .ok e) : e.Distinct := by
  obtain ⟨hr, hk⟩ := rename_rowKey h
  unfold Distinct
  rw [hr, hk]
  exact hd

theorem distinct_project {d e : Dataset} {names : List String} {keep : Bool} (hd : d.Distinct)
    (h : d.project names keep = .ok e) : e.Distinct := by
  have hs := project_schema h
  unfold project at h
  rw [hs] at h
  obtain ⟨s, hp, h⟩ := ok_of_bind h
  cases hp
  obtain ⟨indices, hx, h⟩ := ok_of_bind h
  have hr : e.rows = d.rows.map (Row.project · indices) := by rw [← eq_of_pure_ok h]
  refine distinct_of_reads hd (Schema.project_identifierNames hs) ?_
  rw [hr, List.forall₂_map_right_iff]
  refine List.forall₂_same.2 fun r _ n hn => ?_
  exact Schema.read_project (liftModel_ok hx)
    (e.schema.identifierNames_subset (Schema.project_identifierNames hs hn)) r

theorem filterRows_sublist {s : Schema} {condition : Scalar} {outer : Scope} {rows kept : List Row}
    (h : filterRows s condition outer rows = .ok kept) : kept.Sublist rows := by
  induction rows generalizing kept with
  | nil =>
    cases h
    exact .slnil
  | cons r rest ih =>
    obtain ⟨v, _, h⟩ := ok_of_bind h
    obtain ⟨more, hm, h⟩ := ok_of_bind h
    cases eq_of_pure_ok h
    split
    · exact (ih hm).cons_cons r
    · exact (ih hm).cons r

theorem distinct_filter {d e : Dataset} {condition : Scalar} {outer : Scope} (hd : d.Distinct)
    (h : d.filter condition outer = .ok e) : e.Distinct := by
  obtain ⟨rows, hr, h⟩ := ok_of_bind h
  cases eq_of_pure_ok h
  exact List.Pairwise.sublist (filterRows_sublist hr) hd

theorem calculateRows_ok {s : Schema} {columns : List CalcColumn} {slots : List Nat} {width : Nat}
    {outer : Scope} {rows out : List Row}
    (h : calculateRows s columns slots width outer rows = .ok out) :
    List.Forall₂ (fun r q => calculateRow s columns slots width outer r = .ok q) rows out := by
  induction rows generalizing out with
  | nil =>
    cases h
    exact .nil
  | cons r rest ih =>
    obtain ⟨q, hq, h⟩ := ok_of_bind h
    obtain ⟨more, hm, h⟩ := ok_of_bind h
    cases eq_of_pure_ok h
    exact .cons hq (ih hm)

theorem columns_names (columns : List CalcColumn) :
    (columns.map (·.column)).map (·.name) = columns.map (·.name) := by
  rw [List.map_map]
  rfl

theorem calculateRows_reads {d : Dataset} {s : Schema} {columns : List CalcColumn}
    {slots : List Nat} {outer : Scope} {rows : List Row}
    (hs : d.schema.calculate (columns.map (·.column)) = .ok s)
    (hp : s.positions (columns.map (·.name)) = .ok slots)
    (hr : calculateRows d.schema columns slots s.size outer d.rows = .ok rows) :
    List.Forall₂ (fun r q => ∀ n ∈ d.schema.identifierNames, s.read q n = d.schema.read r n)
      d.rows rows := by
  refine (calculateRows_ok hr).imp fun r q hq n hn => ?_
  obtain ⟨values, _, hq⟩ := ok_of_bind hq
  rw [← eq_of_pure_ok hq]
  rw [← columns_names] at hp
  refine Schema.read_write hs hp r values (d.schema.identifierNames_subset hn) fun hm => ?_
  obtain ⟨col, hcol, he⟩ := List.mem_map.1 hm
  exact Schema.assign_not_identifier (Schema.calculate_ok hs) col hcol (he ▸ hn)

theorem distinct_calculateRows {d : Dataset} {s : Schema} {columns : List CalcColumn}
    {slots : List Nat} {outer : Scope} {rows : List Row} (hd : d.Distinct)
    (hs : d.schema.calculate (columns.map (·.column)) = .ok s)
    (hp : s.positions (columns.map (·.name)) = .ok slots)
    (hr : calculateRows d.schema columns slots s.size outer d.rows = .ok rows) :
    Distinct ⟨s, rows⟩ :=
  distinct_of_reads hd (Schema.calculate_identifierNames hs) (calculateRows_reads hs hp hr)

theorem distinct_calculate {d e : Dataset} {columns : List CalcColumn} {outer : Scope}
    (hd : d.Distinct) (h : d.calculate columns outer = .ok e) : e.Distinct := by
  obtain ⟨hs, slots, hp, hr⟩ := calculate_ok h
  exact distinct_calculateRows hd hs hp hr

theorem number_rows (rows : List Row) : (Window.number rows).map (·.2) = rows :=
  List.map_snd_zip (by simp)

theorem distinct_windowed {d e : Dataset} {calls : List WindowCall} (hd : d.Distinct)
    (h : d.windowed calls = .ok e) : e.Distinct := by
  have hw := windowed_schema h
  unfold windowed at h
  rw [hw] at h
  obtain ⟨s, hs, h⟩ := ok_of_bind h
  cases hs
  obtain ⟨slots, hp, h⟩ := ok_of_bind h
  obtain ⟨results, _, h⟩ := ok_of_bind h
  have hr := congrArg Dataset.rows (eq_of_pure_ok h)
  obtain ⟨cols, hc, hs⟩ := Schema.windowed_ok hw
  have hp := liftModel_ok hp
  rw [← Schema.windowColumns_names hc] at hp
  refine distinct_of_reads hd (Schema.calculate_identifierNames hs) ?_
  rw [← hr, ← number_rows d.rows, List.forall₂_map_left_iff, List.forall₂_map_right_iff,
    number_rows]
  refine List.forall₂_same.2 fun m _ n hn => ?_
  refine Schema.read_write hs hp m.2 _ (d.schema.identifierNames_subset hn) fun hm => ?_
  obtain ⟨col, hcol, he⟩ := List.mem_map.1 hm
  exact Schema.assign_not_identifier (Schema.calculate_ok hs) col hcol (he ▸ hn)

theorem distinct_calculateOver {d e : Dataset} {calls : List WindowCall}
    {columns : List CalcColumn} {outer : Scope} (hd : d.Distinct)
    (h : d.calculateOver calls columns outer = .ok e) : e.Distinct := by
  unfold calculateOver at h
  split at h
  · exact distinct_calculate hd h
  · obtain ⟨staged, hs, h⟩ := ok_of_bind h
    obtain ⟨assigned, ha, h⟩ := ok_of_bind h
    exact distinct_project (distinct_calculate (distinct_windowed hd hs) ha) h

theorem distinct_windowedOver {d e : Dataset} {calls : List WindowCall} {attributes : List String}
    (hd : d.Distinct) (h : d.windowedOver calls attributes = .ok e) : e.Distinct := by
  obtain ⟨staged, hs, h⟩ := ok_of_bind h
  split at h
  · cases eq_of_pure_ok h
    exact distinct_windowed hd hs
  · exact distinct_project (distinct_windowed hd hs) h

end Dataset

namespace MeasureMap

theorem rows_joined {today : Date} {sides : List Side} {columns : List Nat}
    {outs : List (MeasureOutput × List (Option Nat))} {rs out : List Row}
    (h : rows today sides columns outs rs = .ok out) :
    Joined (fun r part => Extends (Row.key r columns) part) rs out := by
  induction rs generalizing out with
  | nil =>
    cases h
    exact .nil
  | cons r rest ih =>
    unfold rows at h
    dsimp only at h
    split at h
    · exact .cons (.inl rfl) (ih h)
    · obtain ⟨values, _, h⟩ := ok_of_bind h
      obtain ⟨others, ho, h⟩ := ok_of_bind h
      cases eq_of_pure_ok h
      exact .cons (.inr ⟨values, rfl⟩) (ih ho)

theorem evaluate_from {m : MeasureMap} {today : Date} {operands : List Operand}
    {first e : Dataset} (hf : operands.findSome? Operand.dataset? = some first)
    (hi : m.identifiers = first.schema.identifiers) (h : m.evaluate today operands = .ok e) :
    e.From first.schema.identifiers first.rowKey first.rows := by
  obtain ⟨hs, lead, _, _, leading, hlead, _, _, hl, hr⟩ := evaluate_ok h
  rw [hf] at hlead
  cases hlead
  have hc := Schema.components_of_ofComponents hs
  rw [hi] at hl
  have hk : ∀ r : Row, Row.key r leading = first.rowKey r := Schema.key_of_positions hl
  refine ⟨⟨_, by rw [hc, hi], fun c hm => ?_⟩, first.schema.identifiers_isIdentifier,
    first.schema.length_key, ?_⟩
  · obtain ⟨o, _, rfl⟩ := List.mem_map.1 hm
    rfl
  · have hrows := rows_joined hr
    simp only [hk] at hrows
    exact hrows

theorem distinct_evaluate {m : MeasureMap} {today : Date} {operands : List Operand}
    {first e : Dataset} (hf : operands.findSome? Operand.dataset? = some first)
    (hi : m.identifiers = first.schema.identifiers) (hd : first.Distinct)
    (h : m.evaluate today operands = .ok e) : e.Distinct :=
  (evaluate_from hf hi h).distinct hd

end MeasureMap

namespace SetOp

/-- Every key once, and under each a row that has it. -/
structure Aligned (ids : List Nat) (m : Keyed Row) : Prop where
  unique : m.Unique
  keyed : ∀ p ∈ m, Key.same p.1 (Row.key p.2 ids) = true

theorem Aligned.insert {ids : List Nat} {m : Keyed Row} (h : Aligned ids m) (r : Row) :
    Aligned ids (m.insert (Row.key r ids) r) where
  unique := Keyed.unique_insert h.unique _ _
  keyed p hp := by
    rcases Keyed.mem_insert hp with hp | ⟨hr, hk⟩
    · exact h.keyed p hp
    · rw [hr]
      exact hk

theorem Aligned.foldl_insert {ids : List Nat} (rows : List Row) {m : Keyed Row}
    (h : Aligned ids m) :
    Aligned ids (rows.foldl (fun m r => m.insert (Row.key r ids) r) m) := by
  induction rows generalizing m with
  | nil => exact h
  | cons r rows ih => exact ih (h.insert r)

theorem aligned_ok {target : Schema} {d : Dataset} {m : Keyed Row} (h : aligned target d = .ok m) :
    Aligned target.identifierIndices m := by
  obtain ⟨columns, _, h⟩ := ok_of_bind h
  rw [← eq_of_pure_ok h]
  dsimp only
  rw [Keyed.ofList, List.foldl_map]
  have hf := Aligned.foldl_insert (d.rows.map (Row.project · columns))
    (⟨Keyed.unique_nil, fun _ hp => nomatch hp⟩ : Aligned target.identifierIndices [])
  rwa [List.foldl_map] at hf

theorem alignedAll_ok {target : Schema} {ds : List Dataset} {ms : List (Keyed Row)}
    (h : alignedAll target ds = .ok ms) : ∀ m ∈ ms, Aligned target.identifierIndices m := by
  induction ds generalizing ms with
  | nil =>
    cases h
    exact fun _ hm => nomatch hm
  | cons d ds ih =>
    obtain ⟨m, hm, h⟩ := ok_of_bind h
    obtain ⟨rest, hr, h⟩ := ok_of_bind h
    cases eq_of_pure_ok h
    exact List.forall_mem_cons.2 ⟨aligned_ok hm, ih hr⟩

theorem Aligned.filter {ids : List Nat} {m : Keyed Row} (h : Aligned ids m)
    (p : Key × Row → Bool) : Aligned ids (m.filter p) where
  unique := Keyed.unique_filter h.unique p
  keyed q hq := h.keyed q (List.mem_of_mem_filter hq)

theorem Aligned.union {ids : List Nat} {side acc : Keyed Row} (hs : Aligned ids side)
    (h : Aligned ids acc) : Aligned ids (side.foldl (fun m p => m.insertNew p.1 p.2) acc) := by
  have hk := hs.keyed
  clear hs
  induction side generalizing acc with
  | nil => exact h
  | cons p side ih =>
    obtain ⟨hp, hk⟩ := List.forall_mem_cons.1 hk
    refine ih ⟨Keyed.unique_insertNew h.unique _ _, fun q hq => ?_⟩ hk
    rcases Keyed.mem_insertNew hq with hq | rfl
    · exact h.keyed q hq
    · exact hp

theorem Aligned.step {ids : List Nat} {op : SetOp} {acc side : Keyed Row} (h : Aligned ids acc)
    (hs : Aligned ids side) : Aligned ids (op.step acc side) := by
  cases op with
  | union => exact hs.union h
  | intersect => exact h.filter _
  | setdiff => exact h.filter _
  | symdiff =>
    refine ⟨List.pairwise_append.2 ⟨(h.filter _).unique, (hs.filter _).unique, ?_⟩, ?_⟩
    · -- What is left of the right side has no partner on the left.
      intro p hp q hq
      have hq : Keyed.contains acc q.1 = false := by simpa using (List.mem_filter.1 hq).2
      exact Keyed.contains_eq_false.1 hq p (List.mem_of_mem_filter hp)
    · intro p hp
      rcases List.mem_append.1 hp with hp | hp
      · exact (h.filter _).keyed p hp
      · exact (hs.filter _).keyed p hp

theorem Aligned.foldl_step {ids : List Nat} (op : SetOp) {sides : List (Keyed Row)}
    (hs : ∀ m ∈ sides, Aligned ids m) {acc : Keyed Row} (h : Aligned ids acc) :
    Aligned ids (sides.foldl op.step acc) := by
  induction sides generalizing acc with
  | nil => exact h
  | cons m sides ih =>
    obtain ⟨hm, hs⟩ := List.forall_mem_cons.1 hs
    exact ih hs (h.step hm)

theorem distinct_evaluate {op : SetOp} {operands : List Dataset} {e : Dataset}
    (h : op.evaluate operands = .ok e) : e.Distinct := by
  unfold evaluate at h
  split at h
  · cases h
  · rename_i first rest
    obtain ⟨head, hh, h⟩ := ok_of_bind h
    obtain ⟨sides, hs, h⟩ := ok_of_bind h
    cases eq_of_pure_ok h
    have ha := Aligned.foldl_step op (alignedAll_ok (liftModel_ok hs))
      (aligned_ok (liftModel_ok hh))
    refine List.pairwise_map.2 (List.Pairwise.imp_of_mem (fun {p q} hp hq hpq => ?_) ha.unique)
    refine Bool.eq_false_iff.2 fun hk => Bool.eq_false_iff.1 hpq ?_
    have hq' := ha.keyed q hq
    rw [Key.same_comm] at hq'
    exact Key.same_trans (Key.same_trans (ha.keyed p hp) hk) hq'

end SetOp

theorem Schema.identifiers_append_rule (s : Schema) :
    ∀ c ∈ s.identifiers ++ [Report.rule], c.isIdentifier = true := by
  intro c hc
  rcases List.mem_append.1 hc with hc | hc
  · exact s.identifiers_isIdentifier c hc
  · cases List.mem_singleton.1 hc
    rfl

namespace Check

theorem reportRows_joined {c : Check} {s : Schema} {column : Nat} {others : Keyed Value}
    {outer : Scope} {rs out : List Row} (h : c.reportRows s column others outer rs = .ok out) :
    Joined (fun r part => Extends (Row.key r s.identifierIndices) part) rs out := by
  induction rs generalizing out with
  | nil =>
    cases h
    exact .nil
  | cons r rest ih =>
    obtain ⟨row, hr, h⟩ := ok_of_bind h
    obtain ⟨rows, hrows, h⟩ := ok_of_bind h
    cases eq_of_pure_ok h
    refine .cons ?_ (ih hrows)
    unfold reportRow at hr
    dsimp only at hr
    split at hr
    · obtain ⟨errors, _, hr⟩ := ok_of_bind hr
      rw [← eq_of_pure_ok hr, List.append_assoc]
      exact .inr ⟨_, rfl⟩
    · cases hr
      exact .inl rfl

theorem evaluate_from {c : Check} {outer : Scope} {d e : Dataset} {other : Option Dataset}
    (h : c.evaluate outer d other = .ok e) : e.From d.schema.identifiers d.rowKey d.rows := by
  obtain ⟨type, _, h⟩ := ok_of_bind h
  obtain ⟨s, hs, h⟩ := ok_of_bind h
  obtain ⟨rows, hr, h⟩ := ok_of_bind h
  cases eq_of_pure_ok h
  obtain ⟨column, _, hr⟩ := ok_of_bind hr
  obtain ⟨others, _, hr⟩ := ok_of_bind hr
  have hc := Schema.components_of_ofComponents (liftModel_ok hs)
  rw [List.append_assoc] at hc
  refine ⟨⟨_, hc, fun i hm => ?_⟩, d.schema.identifiers_isIdentifier, d.schema.length_key,
    reportRows_joined hr⟩
  simp only [Report.errors, List.cons_append, List.nil_append, List.mem_cons, List.not_mem_nil,
    or_false] at hm
  rcases hm with rfl | rfl | rfl | rfl <;> rfl

theorem distinct_evaluate {c : Check} {outer : Scope} {d e : Dataset} {other : Option Dataset}
    (hd : d.Distinct) (h : c.evaluate outer d other = .ok e) : e.Distinct :=
  (evaluate_from h).distinct hd

end Check

namespace DatapointCheck

theorem reportRules_joined {c : DatapointCheck} {input : Schema} {kept : List Nat} {scope : Scope}
    {r : Row} {rules : List RowRule} {out : List Row}
    (h : c.reportRules input kept scope r rules = .ok out) :
    Joined (fun rule part => ∃ row, c.reportRule input kept scope r rule = .ok row ∧
      part = row.toList) rules out := by
  induction rules generalizing out with
  | nil =>
    cases h
    exact .nil
  | cons rule rest ih =>
    obtain ⟨row, hr, h⟩ := ok_of_bind h
    obtain ⟨rows, hrows, h⟩ := ok_of_bind h
    cases eq_of_pure_ok h
    exact .cons ⟨row, hr, rfl⟩ (ih hrows)

theorem reportRows_joined {c : DatapointCheck} {input : Schema} {kept : List Nat} {outer : Scope}
    {rs out : List Row} (h : c.reportRows input kept outer rs = .ok out) :
    Joined (fun (p : Row × RowRule) part => ∃ row,
      c.reportRule input kept (Scope.ofRow input p.1 outer) p.1 p.2 = .ok row ∧
        part = row.toList) (rs ×ˢ c.rules) out := by
  induction rs generalizing out with
  | nil =>
    cases h
    exact .nil
  | cons r rest ih =>
    obtain ⟨reports, hr, h⟩ := ok_of_bind h
    obtain ⟨rows, hrows, h⟩ := ok_of_bind h
    cases eq_of_pure_ok h
    rw [List.product_cons]
    exact (reportRules_joined hr).map.append (ih hrows)

theorem reportRule_extends {c : DatapointCheck} {input : Schema} {kept : List Nat} {scope : Scope}
    {r : Row} {rule : RowRule} {row : Option Row}
    (h : c.reportRule input kept scope r rule = .ok row) :
    Extends (Row.key r input.identifierIndices ++ [.string rule.id]) row.toList := by
  obtain ⟨result, _, h⟩ := ok_of_bind h
  split at h
  · rw [← eq_of_pure_ok h, List.append_assoc, List.append_assoc]
    exact .inr ⟨_, rfl⟩
  · cases eq_of_pure_ok h
    exact .inl rfl

theorem not_isIdentifier_of_mem {c : DatapointCheck} {input : Schema} {d : Component}
    (h : d ∈ c.reported input ++ (resultComponents c.mode ++ Report.errors)) :
    d.isIdentifier = false := by
  rcases List.mem_append.1 h with h | h
  · exact Component.not_isIdentifier_of_isMeasure
      (List.mem_filter.1 (List.mem_filter.1 h).1).2
  · rcases List.mem_append.1 h with h | h
    · unfold resultComponents at h
      split at h
      · cases h
      · cases List.mem_singleton.1 h
        rfl
    · simp only [Report.errors, List.mem_cons, List.not_mem_nil, or_false] at h
      rcases h with rfl | rfl <;> rfl

def reportKey (d : Dataset) (p : Row × RowRule) : Key := d.rowKey p.1 ++ [.string p.2.id]

theorem evaluate_from {c : DatapointCheck} {outer : Scope} {d e : Dataset}
    (h : c.evaluate outer d = .ok e) :
    e.From (d.schema.identifiers ++ [Report.rule]) (reportKey d) (d.rows ×ˢ c.rules) := by
  obtain ⟨s, hs, h⟩ := ok_of_bind h
  obtain ⟨rows, hr, h⟩ := ok_of_bind h
  cases eq_of_pure_ok h
  have hc := Schema.components_of_ofComponents (liftModel_ok hs)
  rw [List.append_assoc, List.append_assoc] at hc
  refine ⟨⟨_, hc, fun _ hm => not_isIdentifier_of_mem hm⟩, d.schema.identifiers_append_rule,
    fun p => ?_, (reportRows_joined hr).imp fun p _ part hp => ?_⟩
  · rw [reportKey, Dataset.rowKey, List.length_append, List.length_append, Schema.length_key]
    rfl
  · obtain ⟨row, hrow, rfl⟩ := hp
    exact reportRule_extends hrow

theorem distinct_evaluate {c : DatapointCheck} {outer : Scope} {d e : Dataset} (hd : d.Distinct)
    (hids : (c.rules.map (·.id)).Nodup) (h : c.evaluate outer d = .ok e) : e.Distinct := by
  refine (evaluate_from h).distinct ?_
  refine pairwise_product hd (List.pairwise_map.1 hids) ?_ ?_
  · intro q r a b hqr
    refine Bool.eq_false_iff.2 fun hk => Bool.eq_false_iff.1 hqr ?_
    exact (Key.same_append (by rw [Dataset.rowKey, Dataset.rowKey, Schema.length_key,
      Schema.length_key]) hk).1
  · intro r a b hab
    refine Bool.eq_false_iff.2 fun hk => hab ?_
    have hv := (Key.same_append rfl hk).2
    simpa [Key.same, Value.same] using hv

end DatapointCheck
namespace HierarchyCheck

theorem columns_ok {c : HierarchyCheck} {input : Schema} {k : Columns}
    (h : c.columns input = .ok k) :
    input.indexOf? c.target.component = some k.codeColumn ∧
      input.indexOf? c.target.measure = some k.measureColumn ∧
      k.shared = input.identifierIndices.filter (· != k.codeColumn) := by
  obtain ⟨code, hc, h⟩ := ok_of_bind h
  obtain ⟨measure, hm, h⟩ := ok_of_bind h
  cases eq_of_pure_ok h
  exact ⟨Schema.position_ok.1 hc, Schema.position_ok.1 hm, rfl⟩

def keptIdentifiers (c : HierarchyCheck) (input : Schema) : List Component :=
  input.identifiers.filter fun i => c.options.keepComponent || i.name != c.target.component

theorem index_eq_code_iff {c : HierarchyCheck} {input : Schema} {k : Columns}
    (h : c.columns input = .ok k) {i : Component} (hi : i ∈ input.components) :
    (input.indexOf? i.name).getD 0 = k.codeColumn ↔ i.name = c.target.component := by
  obtain ⟨hc, _, _⟩ := columns_ok h
  obtain ⟨j, hj⟩ := List.getElem?_of_mem hi
  have hx := Schema.indexOf?_of_getElem? hj
  rw [hx, Option.getD_some]
  constructor
  · rintro rfl
    exact Schema.indexOf?_inj hx hc
  · intro hn
    rw [hn, hc] at hx
    exact (Option.some.inj hx).symm

/-- A report holds the code of the rule in the rule component and what the group shares in the
    other identifiers. -/
theorem identifierCells_eq {c : HierarchyCheck} {input : Schema} {k : Columns}
    (h : c.columns input = .ok k) (first : Row) (rule : HierarchyRule) :
    c.identifierCells input k first rule = (c.keptIdentifiers input).map fun i =>
      if i.name = c.target.component then codeCell i.type rule.lhs
      else input.read first i.name := by
  unfold identifierCells keptIdentifiers
  rw [Schema.identifierIndices, Schema.indices_eq, List.flatMap_map]
  change input.identifiers.flatMap _ = _
  have hall : ∀ i ∈ input.identifiers, i ∈ input.components :=
    fun i hi => List.mem_of_mem_filter hi
  generalize input.identifiers = ids at hall
  induction ids with
  | nil => rfl
  | cons i is ih =>
    obtain ⟨hi, hall⟩ := List.forall_mem_cons.1 hall
    rw [List.flatMap_cons, ih hall, List.filter_cons]
    by_cases hn : i.name = c.target.component
    · obtain ⟨j, hj⟩ := List.getElem?_of_mem hi
      rw [if_pos ((index_eq_code_iff h hi).2 hn), Schema.indexOf?_of_getElem? hj,
        Option.getD_some, hj]
      cases c.options.keepComponent with
      | true => simp [hn]
      | false => simp [hn]
    · rw [if_neg fun hx => hn ((index_eq_code_iff h hi).1 hx), Schema.cell_indexOf? hi]
      simp [hn]

theorem key_shared {c : HierarchyCheck} {input : Schema} {k : Columns}
    (h : c.columns input = .ok k) (r : Row) :
    Row.key r k.shared = (input.identifiers.filter (·.name != c.target.component)).map
      fun i => input.read r i.name := by
  obtain ⟨_, _, hs⟩ := columns_ok h
  rw [Row.key, hs, Schema.identifierIndices, Schema.indices_eq, List.filter_map, List.map_map]
  change List.map _ (input.identifiers.filter _) = _
  have hf : input.identifiers.filter
      ((· != k.codeColumn) ∘ fun c => (input.indexOf? c.name).getD 0) =
      input.identifiers.filter (·.name != c.target.component) := by
    refine List.filter_congr fun i hi => ?_
    have hx := index_eq_code_iff h (List.mem_of_mem_filter hi)
    rw [Function.comp_apply, Bool.eq_iff_iff, bne_iff_ne, bne_iff_ne]
    exact not_congr hx
  rw [hf]
  refine List.map_congr_left fun i hi => ?_
  exact Schema.cell_indexOf? (List.mem_of_mem_filter (List.mem_of_mem_filter hi)) r

/-- Reports on different groups differ in what the groups share. -/
theorem shared_of_identifierCells {c : HierarchyCheck} {input : Schema} {k : Columns}
    (h : c.columns input = .ok k) {q r : Row} {a b : HierarchyRule}
    (hs : Key.same (c.identifierCells input k q a) (c.identifierCells input k r b) = true) :
    Key.same (Row.key q k.shared) (Row.key r k.shared) = true := by
  rw [identifierCells_eq h, identifierCells_eq h] at hs
  rw [key_shared h, key_shared h]
  refine Key.same_map.2 fun i hi => ?_
  obtain ⟨hm, hn⟩ := List.mem_filter.1 hi
  have hne : i.name ≠ c.target.component := by simpa using hn
  have hv := Key.same_map.1 hs i (List.mem_filter.2 ⟨hm, by simp [hne]⟩)
  rwa [if_neg hne, if_neg hne] at hv

theorem reportGroup_joined {c : HierarchyCheck} {input : Schema} {k : Columns}
    {members : List Row} {rules : List HierarchyRule} {out : List Row}
    (h : c.reportGroup input k members rules = .ok out) :
    Joined (fun rule part => ∃ row, c.reportRule input k members rule = .ok row ∧
      part = row.toList) rules out := by
  induction rules generalizing out with
  | nil =>
    cases h
    exact .nil
  | cons rule rest ih =>
    obtain ⟨row, hr, h⟩ := ok_of_bind h
    obtain ⟨rows, hrows, h⟩ := ok_of_bind h
    cases eq_of_pure_ok h
    exact .cons ⟨row, hr, rfl⟩ (ih hrows)

theorem reportGroups_joined {c : HierarchyCheck} {input : Schema} {k : Columns}
    {gs : Keyed (List Row)} {out : List Row} (h : c.reportGroups input k gs = .ok out) :
    Joined (fun (p : (Key × List Row) × HierarchyRule) part => ∃ row,
      c.reportRule input k p.1.2 p.2 = .ok row ∧ part = row.toList) (gs ×ˢ c.rules) out := by
  induction gs generalizing out with
  | nil =>
    cases h
    exact .nil
  | cons g rest ih =>
    obtain ⟨reports, hr, h⟩ := ok_of_bind h
    obtain ⟨rows, hrows, h⟩ := ok_of_bind h
    cases eq_of_pure_ok h
    rw [List.product_cons]
    exact (reportGroup_joined hr).map.append (ih hrows)

theorem reportRule_extends {c : HierarchyCheck} {input : Schema} {k : Columns}
    {members : List Row} {rule : HierarchyRule} {row : Option Row}
    (h : c.reportRule input k members rule = .ok row) :
    Extends (c.identifierCells input k (members.headD []) rule ++ [.string rule.id])
      row.toList := by
  obtain ⟨result, _, h⟩ := ok_of_bind h
  split at h
  · cases eq_of_pure_ok h
    exact .inl rfl
  · split at h
    · rw [← eq_of_pure_ok h, reportRow, List.append_assoc, List.append_assoc, List.append_assoc]
      exact .inr ⟨_, rfl⟩
    · cases eq_of_pure_ok h
      exact .inl rfl

theorem groups_pairwise (k : Columns) (rows : List Row) :
    (groups k rows).Pairwise fun g h => Key.same (Row.key (g.2.headD []) k.shared)
      (Row.key (h.2.headD []) k.shared) = false := by
  have hg : Keyed.Grouped _ _ (groups k rows) := Keyed.grouped_group _ _
  refine hg.unique.imp_of_mem fun {g h} hm hn hgh => ?_
  obtain ⟨a, _, ha, hka⟩ := hg.headed g hm
  obtain ⟨b, _, hb, hkb⟩ := hg.headed h hn
  rw [ha, hb, List.headD_cons, List.headD_cons, hka, hkb]
  exact hgh

theorem not_isIdentifier_of_mem {c : HierarchyCheck} {d : Component}
    (h : d ∈ c.measureComponents ++ (c.resultComponents ++
      ([Report.imbalance c.target.type] ++ Report.errors))) : d.isIdentifier = false := by
  rcases List.mem_append.1 h with h | h
  · unfold measureComponents at h
    split at h
    · cases h
    · cases List.mem_singleton.1 h
      rfl
  · rcases List.mem_append.1 h with h | h
    · unfold resultComponents at h
      split at h
      · cases h
      · cases List.mem_singleton.1 h
        rfl
    · simp only [Report.errors, List.cons_append, List.nil_append, List.mem_cons, List.not_mem_nil,
        or_false] at h
      rcases h with rfl | rfl | rfl <;> rfl

theorem length_identifierCells {c : HierarchyCheck} {input : Schema} {k : Columns}
    (hk : c.columns input = .ok k) (first : Row) (rule : HierarchyRule) :
    (c.identifierCells input k first rule).length = (c.keptIdentifiers input).length := by
  rw [identifierCells_eq hk, List.length_map]

def reportKey (c : HierarchyCheck) (input : Schema) (k : Columns)
    (p : (Key × List Row) × HierarchyRule) : Key :=
  c.identifierCells input k (p.1.2.headD []) p.2 ++ [.string p.2.id]

theorem evaluate_from {c : HierarchyCheck} {d e : Dataset} (h : c.evaluate d = .ok e) :
    ∃ k, c.columns d.schema = .ok k ∧
      e.From (c.keptIdentifiers d.schema ++ [Report.rule]) (c.reportKey d.schema k)
        (groups k d.rows ×ˢ c.rules) := by
  obtain ⟨s, hs, h⟩ := ok_of_bind h
  obtain ⟨rows, hr, h⟩ := ok_of_bind h
  cases eq_of_pure_ok h
  obtain ⟨k, hk, hr⟩ := ok_of_bind hr
  have hk := liftModel_ok hk
  have hc := Schema.components_of_ofComponents (liftModel_ok hs)
  simp only [List.append_assoc] at hc
  rw [← List.append_assoc] at hc
  refine ⟨k, hk, ⟨_, hc, fun _ hm => not_isIdentifier_of_mem hm⟩, fun i hi => ?_, fun p => ?_,
    (reportGroups_joined hr).imp fun p _ part hp => ?_⟩
  · refine d.schema.identifiers_append_rule i ?_
    rcases List.mem_append.1 hi with hi | hi
    · exact List.mem_append_left _ (List.mem_of_mem_filter hi)
    · exact List.mem_append_right _ hi
  · rw [reportKey, List.length_append, List.length_append, length_identifierCells hk]
    rfl
  · obtain ⟨row, hrow, rfl⟩ := hp
    exact reportRule_extends hrow

theorem distinct_evaluate {c : HierarchyCheck} {d e : Dataset}
    (hids : (c.rules.map (·.id)).Nodup) (h : c.evaluate d = .ok e) : e.Distinct := by
  obtain ⟨k, hk, hf⟩ := evaluate_from h
  have hl := fun first rule first' rule' => (length_identifierCells hk first rule).trans
    (length_identifierCells hk first' rule').symm
  refine hf.distinct ?_
  refine pairwise_product (groups_pairwise k d.rows) (List.pairwise_map.1 hids) ?_ ?_
  · intro g g' a b hgg
    refine Bool.eq_false_iff.2 fun hx => Bool.eq_false_iff.1 hgg ?_
    exact shared_of_identifierCells hk (Key.same_append (hl _ _ _ _) hx).1
  · intro g a b hab
    refine Bool.eq_false_iff.2 fun hx => hab ?_
    have hv := (Key.same_append (hl _ _ _ _) hx).2
    simpa [Key.same, Value.same] using hv

end HierarchyCheck
end Tabular
