import Tabular.Proofs.Distinct
import Tabular.Proofs.Safety.Joins

set_option autoImplicit false

namespace Tabular

theorem Value.type_eq_of_same {v w : Value} (h : v.same w = true) : v.type? = w.type? := by
  cases v <;> cases w <;> first | rfl | cases h

theorem Value.eq_null_of_conforms {v w x : Value} {t u : ScalarType} (hv : v.conforms t = true)
    (hw : w.conforms u = true) (hvx : v.same x = true) (hwx : w.same x = true) (ht : t ≠ u) :
    x = .null := by
  unfold Value.conforms at hv hw
  rw [Value.type_eq_of_same hvx] at hv
  rw [Value.type_eq_of_same hwx] at hw
  cases x with
  | null => rfl
  | _ =>
    cases eq_of_beq hv
    exact absurd (eq_of_beq hw) ht

theorem Keyed.mem_of_find? {α : Type} {m : Keyed α} {k : Key} {a : α} (h : m.find? k = some a) :
    ∃ p ∈ m, Key.same p.1 k = true ∧ p.2 = a := by
  obtain ⟨p, hp, ha⟩ := Option.map_eq_some_iff.1 h
  exact ⟨p, List.mem_of_find?_eq_some hp, by simpa using List.find?_some hp, ha⟩

namespace Dataset

theorem From.reads {α : Type} {e : Dataset} {ids : List Component} {start : α → Key} {xs : List α}
    (h : e.From ids start xs) {x : α} {part : List Row} {r : Row} (hp : Extends (start x) part)
    (hr : r ∈ part) : (ids.map (·.name)).map (e.schema.read r) = start x := by
  obtain ⟨others, hc, ho⟩ := h.components
  have hids : e.schema.identifiers = ids := by
    rw [Schema.identifiers, hc, List.filter_append, List.filter_eq_self.2 h.identifiers,
      List.filter_eq_nil_iff.2 fun c hm => Bool.eq_false_iff.1 (ho c hm), List.append_nil]
  have hkey := h.rowKey hp hr
  rwa [Dataset.rowKey, Schema.key_eq, Schema.identifierNames, hids] at hkey

/-- Some row of the dataset has the key under the names. -/
def Meets (d : Dataset) (names : List String) (key : Key) : Prop :=
  ∃ q ∈ d.rows, Key.same (names.map (d.schema.read q)) key = true

/-- A key of two datasets is null where their types differ. -/
theorem Meets.null {d e : Dataset} {names : List String} {f : String → Value}
    (hd : d.Meets names (names.map f)) (he : e.Meets names (names.map f)) (hcd : d.Conforms)
    (hce : e.Conforms) {i k : Component} (hi : i ∈ d.schema.components)
    (hk : k ∈ e.schema.components) (hmem : i.name ∈ names) (hn : k.name = i.name)
    (ht : i.type ≠ k.type) : f i.name = .null := by
  obtain ⟨r, hr, hsr⟩ := hd
  obtain ⟨q, hq, hsq⟩ := he
  have hv := (hcd r hr).read hi
  have hw := (hce q hq).read hk
  rw [hn] at hw
  exact Value.eq_null_of_conforms hv hw (Key.same_map.1 hsr _ hmem) (Key.same_map.1 hsq _ hmem) ht

end Dataset

namespace MeasureMap

theorem meets_of_join {ids : List String} {led : Bool} {operands : List Operand} {ss : List Side}
    (h : sides ids led operands = .ok ss) {key : Key}
    (hl : led = false → ∀ d, operands.findSome? Operand.dataset? = some d → d.Meets ids key)
    {leading : Row} {parts : List (Value ⊕ Row)} (hj : join key leading ss = some parts) :
    ∀ d, Operand.dataset d ∈ operands → d.Meets ids key := by
  induction operands generalizing led ss parts with
  | nil => exact fun d hd => absurd hd List.not_mem_nil
  | cons o operands ih =>
    cases o with
    | scalar v =>
      obtain ⟨others, hs, h⟩ := ok_of_bind h
      cases eq_of_pure_ok h
      obtain ⟨_, _, _, hps, _⟩ := join_cons hj
      intro d hd
      rcases List.mem_cons.1 hd with hd | hd
      · cases hd
      · exact ih hs hl hps d hd
    | dataset d =>
      obtain ⟨columns, hc, h⟩ := ok_of_bind h
      obtain ⟨others, hs, h⟩ := ok_of_bind h
      cases eq_of_pure_ok h
      obtain ⟨p, _, hp, hps, _⟩ := join_cons hj
      intro e he
      rcases List.mem_cons.1 he with he | he
      · cases he
        cases led with
        | false => exact hl rfl d rfl
        | true =>
          obtain ⟨a, ha, _⟩ := Option.map_eq_some_iff.1 hp
          obtain ⟨entry, hm, hsame, _⟩ := Keyed.mem_of_find? ha
          obtain ⟨q, hq, rfl⟩ := List.mem_map.1 hm
          refine ⟨q, List.mem_reverse.1 hq, ?_⟩
          rw [← Schema.cells_positions hc]
          exact hsame
      · exact ih hs nofun hps e he

theorem join_of_mem_rows {today : Date} {ss : List Side} {columns : List Nat}
    {outs : List (MeasureOutput × List (Option Nat))} {rs out : List Row}
    (h : rows today ss columns outs rs = .ok out) {row : Row} (hrow : row ∈ out) :
    ∃ r ∈ rs, ∃ parts values, join (Row.key r columns) r ss = some parts ∧
      row = Row.key r columns ++ values := by
  induction rs generalizing out with
  | nil =>
    cases h
    cases hrow
  | cons r rest ih =>
    have hlater : ∀ {more}, rows today ss columns outs rest = .ok more → row ∈ more →
        ∃ s ∈ r :: rest, ∃ parts values, join (Row.key s columns) s ss = some parts ∧
          row = Row.key s columns ++ values := by
      intro more hm hrow
      obtain ⟨s, hs, hj⟩ := ih hm hrow
      exact ⟨s, List.mem_cons_of_mem _ hs, hj⟩
    unfold rows at h
    dsimp only at h
    split at h
    · exact hlater h hrow
    · rename_i parts hj
      obtain ⟨values, _, h⟩ := ok_of_bind h
      obtain ⟨others, ho, h⟩ := ok_of_bind h
      cases eq_of_pure_ok h
      rcases List.mem_cons.1 hrow with rfl | hrow
      · exact ⟨r, List.mem_cons_self .., parts, values, hj, rfl⟩
      · exact hlater ho hrow

theorem meets_of_evaluate {m : MeasureMap} {today : Date} {operands : List Operand}
    {first e : Dataset} (hf : operands.findSome? Operand.dataset? = some first)
    (hi : m.identifiers = first.schema.identifiers) (h : m.evaluate today operands = .ok e)
    {row : Row} (hrow : row ∈ e.rows) :
    ∀ d, Operand.dataset d ∈ operands → d.Meets first.schema.identifierNames
      (first.schema.identifierNames.map (e.schema.read row)) := by
  have hfrom := evaluate_from hf hi h
  obtain ⟨_, lead, ss, _, leading, hlead, hs, _, hl, hr⟩ := evaluate_ok h
  rw [hf] at hlead
  cases hlead
  rw [hi] at hs hl
  obtain ⟨r, hmem, parts, values, hj, rfl⟩ := join_of_mem_rows hr hrow
  have hkey : Row.key r leading = first.rowKey r := Schema.key_of_positions hl r
  have hreads := hfrom.reads (x := r) (.inr ⟨values, rfl⟩) (List.mem_singleton.2 rfl)
  rw [hkey] at hj hrow ⊢
  change List.map _ first.schema.identifierNames = _ at hreads
  rw [hreads]
  refine meets_of_join hs (fun _ d hd => ?_) hj
  rw [hf] at hd
  cases hd
  refine ⟨r, hmem, ?_⟩
  rw [Dataset.rowKey, Schema.key_eq]
  exact Key.same_self _

end MeasureMap

namespace Check

theorem reported_of_mem_rows {c : Check} {s : Schema} {column : Nat} {others : Keyed Value}
    {outer : Scope} {rs out : List Row} (h : c.reportRows s column others outer rs = .ok out)
    {row : Row} (hrow : row ∈ out) : ∃ r ∈ rs, ∃ errors, row = Row.key r s.identifierIndices ++
      [Row.cell r column, (others.find? (Row.key r s.identifierIndices)).getD .null] ++ errors := by
  induction rs generalizing out with
  | nil =>
    cases h
    cases hrow
  | cons r rest ih =>
    obtain ⟨part, hpart, h⟩ := ok_of_bind h
    obtain ⟨more, hmore, h⟩ := ok_of_bind h
    cases eq_of_pure_ok h
    rcases List.mem_append.1 hrow with hrow | hrow
    · cases Option.mem_toList.1 hrow
      unfold reportRow at hpart
      dsimp only at hpart
      split at hpart
      · obtain ⟨errors, _, hpart⟩ := ok_of_bind hpart
        cases eq_of_pure_ok hpart
        exact ⟨r, List.mem_cons_self .., errors, rfl⟩
      · cases hpart
    · obtain ⟨q, hq, he⟩ := ih hmore hrow
      exact ⟨q, List.mem_cons_of_mem _ hq, he⟩

theorem meets_of_evaluate {c : Check} {outer : Scope} {d o e : Dataset}
    (h : c.evaluate outer d (some o) = .ok e) {row : Row} (hrow : row ∈ e.rows) :
    let key := d.schema.identifierNames.map (e.schema.read row)
    d.Meets d.schema.identifierNames key ∧
      (e.schema.read row Report.imbalanceName = .null ∨ o.Meets d.schema.identifierNames key) := by
  intro key
  have hfrom := evaluate_from h
  obtain ⟨type, _, h⟩ := ok_of_bind h
  obtain ⟨s, hs, h⟩ := ok_of_bind h
  obtain ⟨rows, hr, h⟩ := ok_of_bind h
  cases eq_of_pure_ok h
  obtain ⟨column, _, hr⟩ := ok_of_bind hr
  obtain ⟨others, ho, hr⟩ := ok_of_bind hr
  obtain ⟨m, _, ho⟩ := ok_of_bind ho
  obtain ⟨measured, _, ho⟩ := ok_of_bind ho
  obtain ⟨ids, hids, ho⟩ := ok_of_bind ho
  obtain ⟨r, hmem, errors, rfl⟩ := reported_of_mem_rows hr hrow
  have hkey : key = d.rowKey r :=
    hfrom.reads (x := r) (.inr ⟨_, congrArg ([·]) (List.append_assoc ..)⟩)
      (List.mem_singleton.2 rfl)
  rw [hkey]
  refine ⟨⟨r, hmem, ?_⟩, ?_⟩
  · rw [Dataset.rowKey, Schema.key_eq]
    exact Key.same_self _
  · have hread : Schema.read s (d.rowKey r ++ [Row.cell r column,
        (others.find? (d.rowKey r)).getD .null] ++ errors) Report.imbalanceName =
        (others.find? (d.rowKey r)).getD .null := by
      refine Schema.read_of_mem_zip ?_
      have hlen : (d.rowKey r).length = d.schema.identifiers.length := d.schema.length_key r
      rw [Schema.names, Schema.components_of_ofComponents (liftModel_ok hs), List.append_assoc,
        List.append_assoc, List.map_append, List.zip_append ((List.length_map _).trans hlen.symm)]
      exact List.mem_append_right _ (List.mem_cons_of_mem _ (List.mem_cons_self ..))
    cases hf : others.find? (d.rowKey r) with
    | none => exact .inl (hread.trans (by rw [hf]; rfl))
    | some v =>
      obtain ⟨entry, hentry, hsame, _⟩ := Keyed.mem_of_find? hf
      cases eq_of_pure_ok ho
      obtain ⟨q, hq, rfl⟩ := List.mem_map.1 hentry
      refine .inr ⟨q, List.mem_reverse.1 hq, ?_⟩
      rw [← Schema.cells_positions (liftModel_ok hids)]
      exact hsame

end Check
end Tabular
