import Tabular.Proofs.Order.Joins
import Tabular.Proofs.Texts
import Tabular.Rules.Hierarchy

set_option autoImplicit false

namespace Tabular

open HierarchyCheck (codeCell)

namespace Value

/-- The value is null, or what its text stands for as a code of the type. -/
def Legible (v : Value) (t : ScalarType) : Prop := v = .null ∨ codeCell t v.render = v

variable {v w : Value} {t : ScalarType}

theorem legible_of_conforms (ht : t ≠ .number) (h : v.conforms t = true) : v.Legible t := by
  rcases conforms_iff.1 h with rfl | h
  · exact .inl rfl
  · refine .inr ?_
    rw [codeCell, parse?_render ht h]
    rfl

theorem legible_codeCell (ht : t ≠ .number) (code : String) : (codeCell t code).Legible t := by
  refine .inr ?_
  unfold codeCell
  cases h : parse? t code with
  | some w => rw [Option.getD_some, parse?_render ht (type_of_parse? h), Option.getD_some]
  | none => rw [Option.getD_none, render, h, Option.getD_none]

namespace Legible

theorem eq_of_render (hv : v.Legible t) (hw : w.Legible t) (hvn : v.isNull = false)
    (hwn : w.isNull = false) (h : v.render = w.render) : v = w := by
  rcases hv with rfl | hv
  · cases hvn
  · rcases hw with rfl | hw
    · cases hwn
    · rw [← hv, h, hw]

theorem ne_number (ht : t ≠ .number) (hv : v.Legible t) (x : Number) : v ≠ .number x := by
  rintro rfl
  rcases hv with hv | hv
  · cases hv
  · unfold codeCell at hv
    cases hp : parse? t (render (.number x)) with
    | some w =>
      rw [hp, Option.getD_some] at hv
      have htype := type_of_parse? hp
      rw [hv] at htype
      exact ht (Option.some.inj htype).symm
    | none =>
      rw [hp] at hv
      cases hv

theorem eq_of_same (ht : t ≠ .number) (hv : v.Legible t) (h : v.same w = true) : v = w := by
  cases v with
  | number x => exact absurd rfl (hv.ne_number ht x)
  | _ => cases w <;> simp_all [same]

end Legible
end Value

namespace Schema

def Discrete (s : Schema) : Prop := ∀ i ∈ s.identifiers, i.type ≠ .number

/-- The values of a row under the identifiers are legible. -/
def Legible (s : Schema) (r : Row) : Prop :=
  ∀ i ∈ s.identifiers, (s.read r i.name).Legible i.type

variable {s t : Schema} {r q : Row}

theorem legible_iff_key : s.Legible r ↔ List.Forall₂ (fun (i : Component) v => v.Legible i.type)
    s.identifiers (Row.key r s.identifierIndices) := by
  rw [key_eq, identifierNames, List.map_map, List.forall₂_map_right_iff, List.forall₂_same]
  rfl

theorem Admits.legible (h : s.Admits r) (hs : s.Discrete) : s.Legible r :=
  fun i hi => Value.legible_of_conforms (hs i hi) (h.read (List.mem_of_mem_filter hi))

theorem Legible.of_reads (h : s.Legible r) (hi : t.identifiers ⊆ s.identifiers)
    (hr : ∀ n ∈ t.identifierNames, t.read q n = s.read r n) : t.Legible q := by
  intro i hm
  rw [hr i.name (List.mem_map.2 ⟨i, hm, rfl⟩)]
  exact h i (hi hm)

theorem identifiers_subset (h : t.components ⊆ s.components) : t.identifiers ⊆ s.identifiers := by
  intro i hi
  obtain ⟨hm, hid⟩ := List.mem_filter.1 hi
  exact List.mem_filter.2 ⟨h hm, hid⟩

theorem assign_identifiers {cs cs' : List Component} {cols : List Column}
    (h : s.assign cs cols = .ok cs') (hn : ∀ col ∈ cols, col.role ≠ .identifier) :
    ∀ c ∈ cs', c.isIdentifier = true → c ∈ cs := by
  induction cols generalizing cs with
  | nil =>
    cases h
    exact fun c hc _ => hc
  | cons col rest ih =>
    obtain ⟨hcol, hrest⟩ := List.forall_mem_cons.1 hn
    obtain ⟨next, hr, hmem⟩ := assign_cons_mem h
    intro c hc hi
    rcases hmem c (ih hr hrest c hc hi) with rfl | ⟨hc, _⟩
    · exact absurd (eq_of_beq hi) hcol
    · exact hc

theorem calculate_identifiers {cols : List Column} (h : s.calculate cols = .ok t)
    (hn : ∀ col ∈ cols, col.role ≠ .identifier) : t.identifiers ⊆ s.identifiers := by
  intro i hi
  obtain ⟨hm, hid⟩ := List.mem_filter.1 hi
  exact List.mem_filter.2 ⟨assign_identifiers (calculate_ok h) hn i hm hid, hid⟩

end Schema

namespace Dataset

def Legible (d : Dataset) : Prop := ∀ r ∈ d.rows, d.schema.Legible r

variable {d e : Dataset}

theorem Conforms.legible (h : d.Conforms) (hs : d.schema.Discrete) : d.Legible :=
  fun r hr => (h r hr).legible hs

theorem Rearranged.legible (h : d.Rearranged e) (hd : d.Legible) : e.Legible := by
  intro r hr
  rw [h.schema]
  exact hd r (h.rows.mem_iff.2 hr)

theorem From.legible {α : Type} {ids : List Component} {start : α → Key} {xs : List α}
    (h : e.From ids start xs)
    (hx : ∀ x ∈ xs, List.Forall₂ (fun (i : Component) v => v.Legible i.type) ids (start x)) :
    e.Legible := by
  have hids : e.schema.identifiers = ids := by
    obtain ⟨others, hc, ho⟩ := h.components
    have hnone : others.filter Component.isIdentifier = [] :=
      List.filter_eq_nil_iff.2 fun c hm => Bool.eq_false_iff.1 (ho c hm)
    rw [Schema.identifiers, hc, List.filter_append, hnone, List.append_nil,
      List.filter_eq_self.2 h.identifiers]
  intro r hr
  obtain ⟨x, hm, part, hp, hr⟩ := h.joined.exists_of_mem hr
  have hkey := h.rowKey hp hr
  rw [Dataset.rowKey] at hkey
  rw [Schema.legible_iff_key, hids, hkey]
  exact hx x hm

theorem legible_rename {pairs : List (String × String)} (hd : d.Legible)
    (h : d.rename pairs = .ok e) : e.Legible := by
  obtain ⟨hr, hk⟩ := rename_rowKey h
  have hids : e.schema.identifiers = d.schema.identifiers.map (Schema.renameComponent pairs) := by
    rw [Schema.identifiers, Schema.rename_ok (rename_schema h), List.filter_map]
    refine congrArg (List.map _) (List.filter_congr fun c _ => ?_)
    exact Schema.renameComponent_isIdentifier pairs c
  intro r hm
  have hkey := Schema.legible_iff_key.1 (hd r (hr ▸ hm))
  change List.Forall₂ _ _ (d.rowKey r) at hkey
  rw [Schema.legible_iff_key]
  change List.Forall₂ _ _ (e.rowKey r)
  rw [hk, hids, List.forall₂_map_left_iff]
  refine hkey.imp fun i v hv => ?_
  rw [Schema.renameComponent_type]
  exact hv

theorem legible_project {names : List String} {keep : Bool} (hd : d.Legible)
    (h : d.project names keep = .ok e) : e.Legible := by
  obtain ⟨s, hs, h⟩ := ok_of_bind h
  obtain ⟨indices, hx, h⟩ := ok_of_bind h
  cases eq_of_pure_ok h
  intro q hq
  obtain ⟨r, hr, rfl⟩ := List.mem_map.1 hq
  refine (hd r hr).of_reads (Schema.identifiers_subset (Schema.project_components_subset hs)) ?_
  exact fun n hn => Schema.read_project (liftModel_ok hx) (s.identifierNames_subset hn) r

theorem legible_filter {condition : Scalar} {outer : Scope} (hd : d.Legible)
    (h : d.filter condition outer = .ok e) : e.Legible := by
  obtain ⟨rows, hr, h⟩ := ok_of_bind h
  cases eq_of_pure_ok h
  exact fun r hm => hd r ((filterRows_sublist hr).subset hm)

theorem legible_calculate {columns : List CalcColumn} {outer : Scope} (hd : d.Legible)
    (he : e.schema.Discrete) (h : d.calculate columns outer = .ok e) : e.Legible := by
  obtain ⟨hs, slots, hp, hr⟩ := calculate_ok h
  unfold calculate at h
  obtain ⟨s, _, h⟩ := ok_of_bind h
  obtain ⟨_, _, h⟩ := ok_of_bind h
  obtain ⟨rows, _, h⟩ := ok_of_bind h
  split at h
  · exact (ofRows_ok (liftModel_ok h)).1.legible he
  · rename_i hn
    have hrole : ∀ col ∈ columns.map (·.column), col.role ≠ .identifier := by
      intro col hm hi
      obtain ⟨c, hc, rfl⟩ := List.mem_map.1 hm
      exact hn (List.any_eq_true.2 ⟨c, hc, beq_iff_eq.2 hi⟩)
    have hids := Schema.calculate_identifiers hs hrole
    have hreads := calculateRows_reads hs hp hr
    intro q hq
    obtain ⟨r, hmem, hread⟩ := exists_left_of_mem hreads hq
    exact (hd r hmem).of_reads hids fun n hn => hread n (List.map_subset _ hids hn)

end Dataset

theorem MeasureMap.legible_evaluate {m : MeasureMap} {today : Date} {operands : List Operand}
    {first e : Dataset} (hf : operands.findSome? Operand.dataset? = some first)
    (hi : m.identifiers = first.schema.identifiers) (hd : first.Legible)
    (h : m.evaluate today operands = .ok e) : e.Legible :=
  (evaluate_from hf hi h).legible fun r hr => Schema.legible_iff_key.1 (hd r hr)

theorem Check.legible_evaluate {c : Check} {outer : Scope} {d e : Dataset} {other : Option Dataset}
    (hd : d.Legible) (h : c.evaluate outer d other = .ok e) : e.Legible :=
  (evaluate_from h).legible fun r hr => Schema.legible_iff_key.1 (hd r hr)

theorem legible_append_rule {ids : List Component} {key : Key} (id : String)
    (h : List.Forall₂ (fun (i : Component) v => v.Legible i.type) ids key) :
    List.Forall₂ (fun (i : Component) v => v.Legible i.type) (ids ++ [Report.rule])
      (key ++ [.string id]) :=
  List.rel_append h (.cons (.inr rfl) .nil)

theorem DatapointCheck.legible_evaluate {c : DatapointCheck} {outer : Scope} {d e : Dataset}
    (hd : d.Legible) (h : c.evaluate outer d = .ok e) : e.Legible := by
  refine (evaluate_from h).legible fun p hp => legible_append_rule p.2.id ?_
  exact Schema.legible_iff_key.1 (hd p.1 (List.mem_product.1 hp).1)

theorem HierarchyCheck.legible_evaluate {c : HierarchyCheck} {d e : Dataset} (hd : d.Legible)
    (hs : d.schema.Discrete) (h : c.evaluate d = .ok e) : e.Legible := by
  obtain ⟨k, hk, hf⟩ := evaluate_from h
  refine hf.legible fun p hp => legible_append_rule p.2.id ?_
  have hg : Keyed.Grouped _ _ (groups k d.rows) := Keyed.grouped_group _ _
  have hm := (List.mem_product.1 hp).1
  obtain ⟨first, rest, hfirst, _⟩ := hg.headed p.1 hm
  have hrow := hg.members p.1 hm first (by rw [hfirst]; exact List.mem_cons_self ..)
  have hlegible := hd first (List.mem_of_mem_filter hrow)
  rw [hfirst, List.headD_cons, identifierCells_eq hk, List.forall₂_map_right_iff, List.forall₂_same]
  intro i hi
  have hid := List.mem_of_mem_filter hi
  split
  · exact Value.legible_codeCell (hs i hid) p.2.lhs
  · exact hlegible i hid

theorem SetOp.legible_evaluate {op : SetOp} {first : Dataset} {rest : List Dataset} {e : Dataset}
    (hd : ∀ d ∈ first :: rest,
      first.schema.identifiers ⊆ d.schema.identifiers ∧ d.Legible)
    (h : op.evaluate (first :: rest) = .ok e) : e.Legible := by
  unfold Dataset.Legible
  rw [evaluate_schema h]
  refine held_evaluate h fun d hm columns hc r hr => ?_
  obtain ⟨hids, hlegible⟩ := hd d hm
  exact (hlegible r hr).of_reads hids fun n hn =>
    Schema.read_project hc (first.schema.identifierNames_subset hn) r

end Tabular
