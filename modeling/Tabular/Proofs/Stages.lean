import Tabular.Proofs.Structure
import Tabular.Proofs.Safety.Rows

set_option autoImplicit false

namespace Tabular

namespace Schema

variable {s t : Schema}

theorem assign_names_subset {cs cs' : List Component} {cols : List Column}
    (h : s.assign cs cols = .ok cs') :
    ∀ n ∈ cs'.map (·.name), n ∈ cs.map (·.name) ∨ n ∈ cols.map (·.name) := by
  induction cols generalizing cs with
  | nil =>
    cases h
    exact fun n hn => .inl hn
  | cons col rest ih =>
    obtain ⟨next, hr, hmem⟩ := assign_cons_mem h
    intro n hn
    rcases ih hr n hn with hn | hn
    · obtain ⟨c, hc, rfl⟩ := List.mem_map.1 hn
      rcases hmem c hc with rfl | ⟨hc, _⟩
      · exact .inr (List.mem_cons_self ..)
      · exact .inl (List.mem_map.2 ⟨c, hc, rfl⟩)
    · exact .inr (List.mem_cons_of_mem _ hn)

theorem checkListed_ok {operator : String} {names : List String}
    (h : s.checkListed operator names = .ok ()) :
    ∀ n ∈ names, ∃ c, s.get? n = some c ∧ c.isIdentifier = false := by
  induction names with
  | nil => exact fun _ hn => absurd hn List.not_mem_nil
  | cons n rest ih =>
    obtain ⟨c, hc, h⟩ := ok_of_bind h
    split at h
    · cases h
    · rename_i hi
      refine List.forall_mem_cons.2 ⟨⟨c, ?_, Bool.eq_false_iff.2 hi⟩, ih h⟩
      have hc := liftModel_ok hc
      unfold require at hc
      split at hc
      · rename_i hg
        rw [hg, Except.ok.inj hc]
      · cases hc

theorem project_drop_mem {names : List String} (h : s.project names false = .ok t) {c : Component} :
    c ∈ t.components ↔ c ∈ s.components ∧ c.name ∉ names := by
  obtain ⟨_, hcheck, _⟩ := ok_of_bind h
  rw [project_ok h, List.mem_filter, Bool.or_eq_true, beq_false, Bool.not_eq_true']
  refine and_congr_right fun hc => ?_
  rw [← Bool.not_eq_true, List.contains_iff_mem]
  refine ⟨fun hor => hor.elim (fun hi hn => ?_) id, .inr⟩
  obtain ⟨d, hd, hdi⟩ := checkListed_ok hcheck c.name hn
  obtain ⟨hm, hname⟩ := get?_eq_some.1 hd
  rw [eq_of_name_eq hm hc hname, hi] at hdi
  cases hdi

theorem project_drop_names {names : List String} (h : s.project names false = .ok t) {n : String} :
    n ∈ t.names ↔ n ∈ s.names ∧ n ∉ names := by
  rw [mem_names, mem_names]
  constructor
  · rintro ⟨c, hc, rfl⟩
    obtain ⟨hc, hn⟩ := (project_drop_mem h).1 hc
    exact ⟨⟨c, hc, rfl⟩, hn⟩
  · rintro ⟨⟨c, hc, rfl⟩, hn⟩
    exact ⟨c, (project_drop_mem h).2 ⟨hc, hn⟩, rfl⟩

end Schema

theorem Scope.ofRow_lookup {s : Schema} {n : String} (hn : n ∈ s.names) (r : Row) (outer : Scope) :
    (Scope.ofRow s r outer).lookup n = some (s.read r n) := by
  obtain ⟨i, hi⟩ := Schema.exists_indexOf? hn
  rw [Schema.read_of_indexOf? hi]
  simp [Scope.ofRow, hi]

theorem Scalar.evalAll_ok {s : Scope} {es : List Scalar} {vs : List Value}
    (h : evalAll s es = .ok vs) : List.Forall₂ (fun e v => e.eval s = .ok v) es vs := by
  induction es generalizing vs with
  | nil =>
    rw [evalAll] at h
    cases h
    exact .nil
  | cons e es ih =>
    rw [evalAll] at h
    obtain ⟨v, hv, h⟩ := ok_of_bind h
    obtain ⟨rest, hr, h⟩ := ok_of_bind h
    cases eq_of_pure_ok h
    exact .cons hv (ih hr)

theorem Window.length_evaluate {rows : List Row} {s : Schema} {c : WindowCall} {vs : List Value}
    (h : Window.evaluate rows s c = .ok vs) : vs.length = rows.length := by
  obtain ⟨_, _, h⟩ := ok_of_bind h
  obtain ⟨_, _, h⟩ := ok_of_bind h
  obtain ⟨_, _, h⟩ := ok_of_bind h
  obtain ⟨_, _, h⟩ := ok_of_bind h
  rw [← eq_of_pure_ok h, Window.arrange, List.length_map, List.length_range]

theorem Window.evaluate_target (c : WindowCall) (target : String) (rows : List Row) (s : Schema) :
    Window.evaluate rows s { c with target } = Window.evaluate rows s c := by
  have hpartitions (measure : ScalarType) (source : Nat) (columns : SortColumns)
      (partitions : Keyed (List Member)) :
      evaluatePartitions { c with target } measure source columns partitions =
        evaluatePartitions c measure source columns partitions := by
    induction partitions with
    | nil => rfl
    | cons p rest ih =>
      rw [evaluatePartitions, evaluatePartitions, ih]
      rfl
  unfold evaluate
  simp only [hpartitions]

namespace Dataset

/-- As many rows, and each is related to the one in its place. -/
structure Rowwise (R : Nat → Row → Row → Prop) (d e : Dataset) : Prop where
  length : e.rows.length = d.rows.length
  related : ∀ (i : Nat) (r q : Row), d.rows[i]? = some r → e.rows[i]? = some q → R i r q

namespace Rowwise

variable {R S T : Nat → Row → Row → Prop} {d w e : Dataset}

theorem trans (h : Rowwise R d w) (h' : Rowwise S w e)
    (hT : ∀ i r m q, R i r m → S i m q → T i r q) : Rowwise T d e where
  length := h'.length.trans h.length
  related i r q hr hq := by
    have hi : i < w.rows.length := by
      rw [h.length]
      exact (List.getElem?_eq_some_iff.1 hr).1
    have hm := List.getElem?_eq_getElem hi
    exact hT i r _ q (h.related i r _ hr hm) (h'.related i _ q hm hq)

theorem imp (h : Rowwise R d e) (hS : ∀ i r q, R i r q → S i r q) : Rowwise S d e where
  length := h.length
  related i r q hr hq := hS i r q (h.related i r q hr hq)

theorem of_forall₂ {R : Row → Row → Prop} (h : List.Forall₂ R d.rows e.rows) :
    Rowwise (fun _ => R) d e where
  length := h.length_eq.symm
  related i r q hr hq := by
    obtain ⟨hi, rfl⟩ := List.getElem?_eq_some_iff.1 hr
    obtain ⟨hj, rfl⟩ := List.getElem?_eq_some_iff.1 hq
    exact h.get hi hj

end Rowwise

variable {d w e : Dataset}

/-- A calculation leaves in each row the values of its columns, found in that row of the source, and
    the source under all other names. -/
theorem calculate_rowwise {columns : List CalcColumn} {outer : Scope}
    (h : d.calculate columns outer = .ok e) (hn : (columns.map (·.name)).Nodup) :
    Rowwise (fun _ r q =>
      (∀ n ∈ d.schema.names, n ∉ columns.map (·.name) → e.schema.read q n = d.schema.read r n) ∧
      ∀ col ∈ columns, col.expression.eval (Scope.ofRow d.schema r outer) =
        .ok (e.schema.read q col.name)) d e := by
  obtain ⟨hs, slots, hp, hr⟩ := calculate_ok h
  refine .of_forall₂ ((calculateRows_ok hr).imp fun r q hq => ?_)
  obtain ⟨values, hv, hq⟩ := ok_of_bind hq
  have hv := Scalar.evalAll_ok hv
  rw [← eq_of_pure_ok hq]
  have hlen : (columns.map (·.name)).length = values.length := by
    rw [← hv.length_eq, List.length_map, List.length_map]
  constructor
  · rw [← columns_names] at hp ⊢
    exact fun n hn hnot => Schema.read_write hs hp r values hn hnot
  · intro col hcol
    obtain ⟨v, hmem, heval⟩ := exists_zip_of_mem (List.forall₂_map_left_iff.1 hv) hcol
    rw [heval, Schema.read_write_self hp hn (Row.length_resize ..) hlen (mem_zip_map _ hmem)]

theorem project_rowwise {names : List String} {keep : Bool} (h : d.project names keep = .ok e) :
    Rowwise (fun _ r q => ∀ n ∈ e.schema.names, e.schema.read q n = d.schema.read r n) d e := by
  obtain ⟨s, _, h⟩ := ok_of_bind h
  obtain ⟨indices, hx, h⟩ := ok_of_bind h
  cases eq_of_pure_ok h
  refine .of_forall₂ (List.forall₂_map_right_iff.2 (List.forall₂_same.2 fun r _ n hn => ?_))
  exact Schema.read_project (liftModel_ok hx) hn r

theorem windowResults_ok {calls : List WindowCall} {results : List (List Value)}
    (h : d.windowResults calls = .ok results) :
    List.Forall₂ (fun c vs => Window.evaluate d.rows d.schema c = .ok vs) calls results := by
  induction calls generalizing results with
  | nil =>
    cases h
    exact .nil
  | cons c calls ih =>
    obtain ⟨vs, hvs, h⟩ := ok_of_bind h
    obtain ⟨others, ho, h⟩ := ok_of_bind h
    cases eq_of_pure_ok h
    exact .cons hvs (ih ho)

theorem windowed_rowwise {calls : List WindowCall} (h : d.windowed calls = .ok w)
    (hn : (calls.map (·.target)).Nodup) :
    Rowwise (fun i r m =>
      (∀ n ∈ d.schema.names, n ∉ calls.map (·.target) →
        w.schema.read m n = d.schema.read r n) ∧
      ∀ c ∈ calls, ∃ vs, Window.evaluate d.rows d.schema c = .ok vs ∧
        vs[i]? = some (w.schema.read m c.target)) d w := by
  have hw := windowed_schema h
  obtain ⟨s, hs, h⟩ := ok_of_bind h
  obtain ⟨slots, hp, h⟩ := ok_of_bind h
  obtain ⟨results, hr, h⟩ := ok_of_bind h
  cases eq_of_pure_ok h
  obtain ⟨cols, hc, hcalc⟩ := Schema.windowed_ok hw
  have hp := liftModel_ok hp
  have hr := windowResults_ok hr
  constructor
  · simp [Window.number]
  · intro i r m hi hm
    have hnumber : (Window.number d.rows)[i]? = some (i, r) := by
      have hlt := (List.getElem?_eq_some_iff.1 hi).1
      exact List.getElem?_zip_eq_some.2 ⟨List.getElem?_range hlt, hi⟩
    rw [List.getElem?_map, hnumber, Option.map_some, Option.some_inj] at hm
    subst hm
    constructor
    · intro n hn hnot
      rw [← Schema.windowColumns_names hc] at hp hnot
      exact Schema.read_write hcalc hp r _ hn hnot
    · intro c hcall
      obtain ⟨vs, hmem, hvs⟩ := exists_zip_of_mem hr hcall
      refine ⟨vs, hvs, ?_⟩
      have hlen : (calls.map (·.target)).length = (results.map (·.getD i .null)).length := by
        rw [List.length_map, List.length_map, hr.length_eq]
      have hzip : (c.target, vs.getD i .null) ∈
          (calls.map (·.target)).zip (results.map (·.getD i .null)) := by
        rw [List.zip_map]
        exact List.mem_map.2 ⟨_, hmem, rfl⟩
      rw [Schema.read_write_self hp hn (Row.length_resize ..) hlen hzip]
      have hlt : i < vs.length := by
        rw [Window.length_evaluate hvs]
        exact (List.getElem?_eq_some_iff.1 hi).1
      rw [List.getD_eq_getElem?_getD, List.getElem?_eq_getElem hlt]
      rfl

/-- The row `m` between a row `r` of the source and its result `q`: the window calls have been added
    to it, and the columns are found in it. -/
structure Overlaid (d e : Dataset) (staged : Schema) (calls : List WindowCall)
    (columns : List CalcColumn) (outer : Scope) (i : Nat) (r m q : Row) : Prop where
  source : ∀ n ∈ d.schema.names, n ∉ calls.map (·.target) → staged.read m n = d.schema.read r n
  results : ∀ c ∈ calls, ∃ vs, Window.evaluate d.rows d.schema c = .ok vs ∧
    vs[i]? = some (staged.read m c.target)
  kept : ∀ n ∈ staged.names, n ∉ columns.map (·.name) → n ∉ calls.map (·.target) →
    e.schema.read q n = staged.read m n
  values : ∀ col ∈ columns, col.name ∉ calls.map (·.target) →
    col.expression.eval (Scope.ofRow staged m outer) = .ok (e.schema.read q col.name)

theorem calculateOver_ok {calls : List WindowCall} {columns : List CalcColumn} {outer : Scope}
    (h : d.calculateOver calls columns outer = .ok e) (ht : (calls.map (·.target)).Nodup)
    (hn : (columns.map (·.name)).Nodup) :
    ∃ staged assigned, d.schema.windowed calls = .ok staged ∧
      staged.calculate (columns.map (·.column)) = .ok assigned ∧
      assigned.project (calls.map (·.target)) false = .ok e.schema ∧
      Rowwise (fun i r q => ∃ m, Overlaid d e staged calls columns outer i r m q) d e := by
  unfold calculateOver at h
  split at h
  · -- Without window calls the row in between is the row of the source.
    rename_i hempty
    have hempty : calls = [] := List.isEmpty_iff.1 hempty
    subst hempty
    refine ⟨d.schema, e.schema, d.schema.windowed_nil, (calculate_ok h).1, e.schema.project_nil,
      (calculate_rowwise h hn).imp fun i r q hrow => ⟨r, fun _ _ _ => rfl, ?_, ?_, ?_⟩⟩
    · exact fun c hc => absurd hc List.not_mem_nil
    · exact fun n hn hnot _ => hrow.1 n hn hnot
    · exact fun col hcol _ => hrow.2 col hcol
  · obtain ⟨w, hw, h⟩ := ok_of_bind h
    obtain ⟨a, ha, h⟩ := ok_of_bind h
    have hcalc := (calculate_ok ha).1
    have hp := project_schema h
    refine ⟨w.schema, a.schema, windowed_schema hw, hcalc, hp, ?_⟩
    have hrows : Rowwise (fun _ m q =>
        (∀ n ∈ w.schema.names, n ∉ columns.map (·.name) → n ∉ calls.map (·.target) →
          e.schema.read q n = w.schema.read m n) ∧
        ∀ col ∈ columns, col.name ∉ calls.map (·.target) →
          col.expression.eval (Scope.ofRow w.schema m outer) =
            .ok (e.schema.read q col.name)) w e := by
      refine (calculate_rowwise ha hn).trans (project_rowwise h) ?_
      rintro _ m b q ⟨hkept, hvalues⟩ hq
      constructor
      · intro n hm hnot htarget
        have hb := (Schema.calculate_names hcalc).subset hm
        rw [hq n ((Schema.project_drop_names hp).2 ⟨hb, htarget⟩), hkept n hm hnot]
      · intro col hcol htarget
        have hb := Schema.calculate_contains hcalc col.name
          (columns_names columns ▸ List.mem_map.2 ⟨col, hcol, rfl⟩)
        rw [hq col.name ((Schema.project_drop_names hp).2 ⟨hb, htarget⟩), hvalues col hcol]
    refine (windowed_rowwise hw ht).trans hrows ?_
    rintro i r m q ⟨hsource, hresults⟩ ⟨hkept, hvalues⟩
    exact ⟨m, hsource, hresults, hkept, hvalues⟩

end Dataset
end Tabular
