import Mathlib.Data.List.Nodup
import Tabular.Proofs.Shape
import Tabular.Proofs.Structure

set_option autoImplicit false

namespace Tabular

/-- The name that stands for `n` after all pairs are replaced at once. -/
def substitute (pairs : List (String × String)) (n : String) : String :=
  (pairs.lookup n).getD n

namespace Schema

variable {s t : Schema} {pairs : List (String × String)}

theorem substitute_of_not_mem {n : String} (h : n ∉ pairs.map Prod.fst) :
    substitute pairs n = n := by
  have hl : pairs.lookup n = none := by
    refine List.lookup_eq_none_iff.2 fun p hp => ?_
    simpa using fun he : n = p.1 => h (List.mem_map.2 ⟨p, hp, he.symm⟩)
  rw [substitute, hl]
  rfl

theorem substitute_of_mem (hn : (pairs.map Prod.fst).Nodup) {n target : String}
    (h : (n, target) ∈ pairs) : substitute pairs n = target := by
  induction pairs with
  | nil => cases h
  | cons p rest ih =>
    obtain ⟨hnew, hrest⟩ := List.nodup_cons.1 hn
    rcases List.mem_cons.1 h with rfl | h
    · rw [substitute, List.lookup_cons_self]
      rfl
    · have hne : (n == p.1) = false :=
        beq_eq_false_iff_ne.2 fun he => hnew (List.mem_map.2 ⟨_, h, he⟩)
      rw [substitute, List.lookup_cons, hne]
      exact ih hrest h

theorem map_substitute (hn : (pairs.map Prod.fst).Nodup) :
    (pairs.map Prod.fst).map (substitute pairs) = pairs.map Prod.snd := by
  rw [List.map_map]
  exact List.map_congr_left fun p hp => substitute_of_mem hn hp

theorem renameComponent_eq (pairs : List (String × String)) (c : Component) :
    renameComponent pairs c = { c with name := substitute pairs c.name } := by
  induction pairs with
  | nil => rfl
  | cons p rest ih =>
    unfold renameComponent substitute at ih ⊢
    rw [List.find?_cons, List.lookup_cons, Bool.beq_comm]
    cases c.name == p.1 with
    | true => rfl
    | false => exact ih

theorem names_renamed (pairs : List (String × String)) (cs : List Component) :
    (cs.map (renameComponent pairs)).map (·.name) =
      (cs.map (·.name)).map (substitute pairs) := by
  rw [List.map_map, List.map_map]
  refine List.map_congr_left fun c _ => ?_
  rw [Function.comp_apply, renameComponent_eq]
  rfl

theorem require_eq_ok {n : String} : (∃ c, s.require n = .ok c) ↔ n ∈ s.names := by
  rw [← contains_iff, contains, require]
  cases s.get? n <;> simp

theorem checkRenaming_ok {seen : List String} :
    s.checkRenaming seen pairs = .ok () ↔
      (∀ p ∈ pairs, p.1 ∈ s.names) ∧ (pairs.map Prod.fst).Nodup ∧ ∀ p ∈ pairs, p.1 ∉ seen := by
  induction pairs generalizing seen with
  | nil => simp [checkRenaming]
  | cons p rest ih =>
    rw [checkRenaming, List.forall_mem_cons, List.forall_mem_cons, List.map_cons, List.nodup_cons,
      ← require_eq_ok]
    cases hr : s.require p.1 with
    | error e => exact ⟨nofun, fun h => nomatch h.1.1⟩
    | ok c =>
      change (if seen.contains p.1 then _ else _) = _ ↔ _
      by_cases hs : p.1 ∈ seen
      · rw [if_pos (List.contains_iff_mem.2 hs)]
        exact ⟨nofun, fun h => absurd hs h.2.2.1⟩
      · rw [if_neg (by simpa using hs), ih]
        constructor
        · rintro ⟨hthere, hn, hseen⟩
          refine ⟨⟨⟨c, rfl⟩, hthere⟩, ⟨?_, hn⟩, hs, ?_⟩
          · intro hm
            obtain ⟨q, hq, he⟩ := List.mem_map.1 hm
            exact hseen q hq (he ▸ List.mem_cons_self ..)
          · exact fun q hq hm => hseen q hq (List.mem_cons_of_mem _ hm)
        · rintro ⟨⟨_, hthere⟩, ⟨hnew, hn⟩, _, hseen⟩
          refine ⟨hthere, hn, fun q hq hm => ?_⟩
          rcases List.mem_cons.1 hm with he | hm
          · exact hnew (List.mem_map.2 ⟨q, hq, he⟩)
          · exact hseen q hq hm

theorem ofComponents_eq_ok {cs : List Component} : ofComponents cs = .ok s ↔ s.components = cs :=
  ⟨components_of_ofComponents, fun h => h ▸ ofComponents_components s⟩

/-- What is renamed is there, nothing is renamed twice, and no two components get one name. -/
structure Renamable (s : Schema) (pairs : List (String × String)) : Prop where
  there : ∀ p ∈ pairs, p.1 ∈ s.names
  once : (pairs.map Prod.fst).Nodup
  apart : (s.names.map (substitute pairs)).Nodup

theorem rename_eq_ok :
    s.rename pairs = .ok t ↔
      s.Renamable pairs ∧ t.components = s.components.map (renameComponent pairs) := by
  constructor
  · intro h
    have hcomponents := rename_ok h
    obtain ⟨_, hcheck, _⟩ := ok_of_bind h
    obtain ⟨hthere, honce, _⟩ := checkRenaming_ok.1 hcheck
    refine ⟨⟨hthere, honce, ?_⟩, hcomponents⟩
    rw [names, ← names_renamed, ← hcomponents]
    exact t.nodup
  · rintro ⟨h, hcomponents⟩
    rw [rename, checkRenaming_ok.2 ⟨h.there, h.once, fun _ _ => List.not_mem_nil⟩]
    change liftModel (ofComponents _) = _
    rw [ofComponents_eq_ok.2 hcomponents]
    rfl

theorem Renamable.exists_rename (h : s.Renamable pairs) : ∃ t, s.rename pairs = .ok t := by
  have hnodup : ((s.components.map (renameComponent pairs)).map (·.name)).Nodup := by
    rw [names_renamed]
    exact h.apart
  have hidentified : (s.components.map (renameComponent pairs)).any Component.isIdentifier := by
    rw [List.any_map, ← s.identified]
    exact congrArg _ (funext (renameComponent_isIdentifier pairs))
  exact ⟨⟨_, hnodup, hidentified⟩, rename_eq_ok.2 ⟨h, rfl⟩⟩

theorem Renamable.targets_nodup (h : s.Renamable pairs) : (pairs.map Prod.snd).Nodup := by
  have hthere : ∀ n ∈ pairs.map Prod.fst, n ∈ s.names := List.forall_mem_map.2 h.there
  rw [← map_substitute h.once]
  exact h.once.map_on fun m hm n hn he =>
    List.inj_on_of_nodup_map h.apart (hthere m hm) (hthere n hn) he

/-- What gets a new name gets the old one back, and no other component has the new one. -/
theorem Renamable.substitute_swap (h : s.Renamable pairs) {n : String} (hn : n ∈ s.names) :
    substitute (pairs.map Prod.swap) (substitute pairs n) = n := by
  have hfst : (pairs.map Prod.swap).map Prod.fst = pairs.map Prod.snd := by
    rw [List.map_map]
    rfl
  by_cases hm : n ∈ pairs.map Prod.fst
  · obtain ⟨p, hp, rfl⟩ := List.mem_map.1 hm
    rw [substitute_of_mem h.once hp]
    refine substitute_of_mem ?_ (List.mem_map.2 ⟨p, hp, rfl⟩)
    rw [hfst]
    exact h.targets_nodup
  · rw [substitute_of_not_mem hm]
    refine substitute_of_not_mem fun ht => hm ?_
    rw [hfst, List.mem_map] at ht
    obtain ⟨p, hp, he⟩ := ht
    have hsame : substitute pairs p.1 = substitute pairs n := by
      rw [substitute_of_mem h.once hp, substitute_of_not_mem hm, he]
    rw [← List.inj_on_of_nodup_map h.apart (h.there p hp) hn hsame]
    exact List.mem_map.2 ⟨p, hp, rfl⟩

theorem rename_swap (h : s.rename pairs = .ok t) : t.rename (pairs.map Prod.swap) = .ok s := by
  obtain ⟨hr, hcomponents⟩ := rename_eq_ok.1 h
  have hnames : t.names = s.names.map (substitute pairs) := by
    rw [names, hcomponents, names_renamed]
    rfl
  have hback : t.names.map (substitute (pairs.map Prod.swap)) = s.names := by
    rw [hnames, List.map_map]
    exact (List.map_congr_left fun n hn => hr.substitute_swap hn).trans (List.map_id _)
  refine rename_eq_ok.2 ⟨⟨?_, ?_, ?_⟩, ?_⟩
  · refine List.forall_mem_map.2 fun p hp => ?_
    rw [hnames]
    exact List.mem_map.2 ⟨p.1, hr.there p hp, substitute_of_mem hr.once hp⟩
  · rw [List.map_map]
    exact hr.targets_nodup
  · rw [hback]
    exact s.nodup
  · rw [hcomponents, List.map_map, eq_comm]
    refine (List.map_congr_left fun c hc => ?_).trans (List.map_id _)
    rw [Function.comp_apply, renameComponent_eq, renameComponent_eq,
      hr.substitute_swap (mem_names.2 ⟨c, hc, rfl⟩)]
    rfl

theorem read_rename (h : s.rename pairs = .ok t) {n : String} (hn : n ∈ s.names) (r : Row) :
    t.read r (substitute pairs n) = s.read r n := by
  obtain ⟨i, hi⟩ := exists_indexOf? hn
  obtain ⟨c, hc, rfl⟩ := getElem?_of_indexOf? hi
  have ht : t.components[i]? = some { c with name := substitute pairs c.name } := by
    rw [rename_ok h, List.getElem?_map, hc, Option.map_some, renameComponent_eq]
  rw [read_of_indexOf? hi, read_of_indexOf? (indexOf?_of_getElem? ht)]

end Schema

namespace Dataset

/-- The same rows under new names: each component keeps its place, type, role and value domain, and
    its column what it held. -/
structure Renamed (pairs : List (String × String)) (d e : Dataset) : Prop where
  rows : e.rows = d.rows
  components : e.schema.components =
    d.schema.components.map fun c => { c with name := substitute pairs c.name }
  columns : ∀ n ∈ d.schema.names, ∀ r, e.schema.read r (substitute pairs n) = d.schema.read r n

theorem rename_eq_ok {d e : Dataset} {pairs : List (String × String)} :
    d.rename pairs = .ok e ↔ d.schema.rename pairs = .ok e.schema ∧ e.rows = d.rows := by
  constructor
  · intro h
    refine ⟨rename_schema h, ?_⟩
    obtain ⟨s, _, h⟩ := ok_of_bind h
    cases eq_of_pure_ok h
    rfl
  · rintro ⟨hs, hrows⟩
    rw [rename, hs, ← hrows]
    rfl

/-- A renaming succeeds if and only if what is renamed is there, nothing is renamed twice and the
    names differ after all are replaced at once. Then only names have changed, and the pairs turned
    around give the dataset back. -/
theorem rename_invertible (d : Dataset) (pairs : List (String × String)) :
    ((∃ e, d.rename pairs = .ok e) ↔ d.schema.Renamable pairs) ∧
      ∀ e, d.rename pairs = .ok e → Renamed pairs d e ∧ e.rename (pairs.map Prod.swap) = .ok d := by
  refine ⟨⟨?_, fun h => ?_⟩, fun e h => ?_⟩
  · rintro ⟨e, h⟩
    exact (Schema.rename_eq_ok.1 (rename_eq_ok.1 h).1).1
  · obtain ⟨s, hs⟩ := h.exists_rename
    exact ⟨⟨s, d.rows⟩, rename_eq_ok.2 ⟨hs, rfl⟩⟩
  · obtain ⟨hs, hrows⟩ := rename_eq_ok.1 h
    refine ⟨⟨hrows, ?_, fun n hn => Schema.read_rename hs hn⟩, ?_⟩
    · rw [Schema.rename_ok hs]
      exact List.map_congr_left fun c _ => Schema.renameComponent_eq pairs c
    · exact rename_eq_ok.2 ⟨Schema.rename_swap hs, hrows.symm⟩

theorem rename_invertible_tally :
    ∃ e, tally.rename [("k", "m"), ("m", "k")] = .ok e ∧ e.schema.names = ["m", "k"] ∧
      e.rename [("m", "k"), ("k", "m")] = .ok tally := by
  obtain ⟨hiff, hall⟩ := rename_invertible tally [("k", "m"), ("m", "k")]
  obtain ⟨e, he⟩ := hiff.2 ⟨by decide, by decide, by decide⟩
  obtain ⟨hrenamed, hback⟩ := hall e he
  refine ⟨e, he, ?_, hback⟩
  rw [Schema.names, hrenamed.components]
  decide

end Dataset
end Tabular
