import Tabular.Proofs.Order.Legible
import Tabular.Proofs.Table.Hierarchy

set_option autoImplicit false

namespace Tabular.HierarchyCheck

variable {c : HierarchyCheck} {d e : Dataset}

def sharing (c : HierarchyCheck) (d : Dataset) (key : Key) : List Row :=
  (c.coded d).filter fun r => decide (c.sharedKey d.schema r = key)

/-- What the groups share, in the order in which they first appear. -/
def sharedKeys (c : HierarchyCheck) (d : Dataset) : List Key :=
  (c.firsts d).map (c.sharedKey d.schema)

theorem mem_sharing {key : Key} {r : Row} :
    r ∈ c.sharing d key ↔ r ∈ c.coded d ∧ c.sharedKey d.schema r = key := by
  rw [sharing, List.mem_filter, decide_eq_true_eq]

theorem sharedKey_eq (hs : d.schema.Discrete) (hl : d.Legible) {q r : Row} (hq : q ∈ d.rows)
    (h : Key.same (c.sharedKey d.schema q) (c.sharedKey d.schema r) = true) :
    c.sharedKey d.schema q = c.sharedKey d.schema r := by
  refine List.map_congr_left fun i hi => ?_
  have hid := List.mem_of_mem_filter hi
  exact (hl q hq i hid).eq_of_same (hs i hid) (Key.same_map.1 h i hi)

theorem members_eq (hs : d.schema.Discrete) (hl : d.Legible) {first : Row}
    (hf : first ∈ c.firsts d) : c.members d first = c.sharing d (c.sharedKey d.schema first) := by
  have hmem := (mem_coded.1 (Keyed.mem_leaders hf)).1
  refine List.filter_congr fun r _ => ?_
  rw [Bool.eq_iff_iff, decide_eq_true_eq]
  constructor
  · exact fun h => (sharedKey_eq hs hl hmem h).symm
  · intro h
    rw [h]
    exact Key.same_self _

theorem mem_sharedKeys (hs : d.schema.Discrete) (hl : d.Legible) {key : Key} :
    key ∈ c.sharedKeys d ↔ ∃ r ∈ c.coded d, c.sharedKey d.schema r = key := by
  constructor
  · intro h
    obtain ⟨r, hr, rfl⟩ := List.mem_map.1 h
    exact ⟨r, Keyed.mem_leaders hr, rfl⟩
  · rintro ⟨r, hr, rfl⟩
    have hleader : ∃ first ∈ c.firsts d,
        Key.same (c.sharedKey d.schema first) (c.sharedKey d.schema r) = true :=
      Keyed.exists_leader hr
    obtain ⟨first, hf, hk⟩ := hleader
    have hmem := (mem_coded.1 (Keyed.mem_leaders hf)).1
    exact List.mem_map.2 ⟨first, hf, sharedKey_eq hs hl hmem hk⟩

theorem nodup_sharedKeys (c : HierarchyCheck) (d : Dataset) : (c.sharedKeys d).Nodup := by
  refine List.pairwise_map.2 ((Keyed.leaders_pairwise (c.coded d)).imp fun {q r} hqr he => ?_)
  rw [he, Key.same_self] at hqr
  cases hqr

theorem coded_perm (h : d.Rearranged e) : (c.coded d).Perm (c.coded e) := by
  unfold coded codeOf
  rw [h.schema]
  exact h.rows.filter _

theorem sharing_perm (h : d.Rearranged e) (key : Key) :
    (c.sharing d key).Perm (c.sharing e key) := by
  unfold sharing
  rw [h.schema]
  exact (coded_perm h).filter _

theorem sharedKeys_perm (h : d.Rearranged e) (hs : d.schema.Discrete) (hl : d.Legible) :
    (c.sharedKeys d).Perm (c.sharedKeys e) := by
  refine (List.perm_ext_iff_of_nodup (nodup_sharedKeys c d) (nodup_sharedKeys c e)).2 fun key => ?_
  rw [mem_sharedKeys hs hl, mem_sharedKeys (h.schema ▸ hs) (h.legible hl), h.schema]
  simp only [(coded_perm h).mem_iff]

/-- Rows of a group with codes of the same text are one row. -/
theorem eq_of_text (hd : d.Distinct) (hl : d.Legible) {key : Key} {q r : Row}
    (hq : q ∈ c.sharing d key) (hr : r ∈ c.sharing d key)
    (h : (c.codeOf d q).render = (c.codeOf d r).render) : q = r := by
  obtain ⟨hqc, hqk⟩ := mem_sharing.1 hq
  obtain ⟨hrc, hrk⟩ := mem_sharing.1 hr
  obtain ⟨hqm, hqn⟩ := mem_coded.1 hqc
  obtain ⟨hrm, hrn⟩ := mem_coded.1 hrc
  refine hd.eq_of_key hqm hrm ?_
  rw [Dataset.rowKey, Dataset.rowKey, Schema.key_eq, Schema.key_eq]
  refine Key.same_map.2 fun n hn => Value.same_iff.2 (congrArg _ ?_)
  obtain ⟨i, hi, rfl⟩ := List.mem_map.1 hn
  by_cases hc : i.name = c.target.component
  · have hlq := hl q hqm i hi
    have hlr := hl r hrm i hi
    rw [hc] at hlq hlr ⊢
    exact hlq.eq_of_render hlr hqn hrn h
  · exact List.map_inj_left.1 (hqk.trans hrk.symm) i (List.mem_filter.2 ⟨hi, by simpa using hc⟩)

theorem codeValue_perm (h : d.Rearranged e) (hd : d.Distinct) (hl : d.Legible) {k : Columns}
    (hk : c.columns d.schema = .ok k) (key : Key) :
    codeValue k (c.sharing d key) = codeValue k (c.sharing e key) := by
  obtain ⟨hcode, _, _⟩ := columns_ok hk
  funext code
  have hperm := ((List.reverse_perm _).trans (sharing_perm h key)).trans
    (List.reverse_perm (c.sharing e key)).symm
  refine congrArg (Option.map _) (List.find?_eq_find?_of_perm hperm ?_)
  rintro q ⟨hq, hqt⟩ r ⟨hr, hrt⟩
  rw [← Schema.read_of_indexOf? hcode, beq_iff_eq] at hqt hrt
  exact eq_of_text hd hl (List.mem_reverse.1 hq) (List.mem_reverse.1 hr) (hqt.trans hrt.symm)

theorem identifierCells_of_sharedKey {k : Columns} (hk : c.columns d.schema = .ok k) {q r : Row}
    (h : c.sharedKey d.schema q = c.sharedKey d.schema r) (rule : HierarchyRule) :
    c.identifierCells d.schema k q rule = c.identifierCells d.schema k r rule := by
  rw [identifierCells_eq hk, identifierCells_eq hk]
  refine List.map_congr_left fun i hi => ?_
  split
  · rfl
  · rename_i hn
    refine List.map_inj_left.1 h i (List.mem_filter.2 ⟨List.mem_of_mem_filter hi, ?_⟩)
    simpa using hn

/-- The reports on a group depend on what its codes stand for and on what it shares. -/
theorem reportGroup_congr {k : Columns} (hk : c.columns d.schema = .ok k) {ms ms' : List Row}
    (hv : codeValue k ms = codeValue k ms')
    (hs : c.sharedKey d.schema (ms.headD []) = c.sharedKey d.schema (ms'.headD []))
    (rules : List HierarchyRule) :
    c.reportGroup d.schema k ms rules = c.reportGroup d.schema k ms' rules := by
  have hrow : ∀ rule, c.reportRule d.schema k ms rule = c.reportRule d.schema k ms' rule := by
    intro rule
    simp only [reportRule, reportRow, hv, identifierCells_of_sharedKey hk hs]
  induction rules with
  | nil => rfl
  | cons rule rest ih => rw [reportGroup, reportGroup, hrow, ih]

theorem sharedKey_headD {key : Key} (h : ∃ r, r ∈ c.sharing d key) :
    c.sharedKey d.schema ((c.sharing d key).headD []) = key := by
  obtain ⟨r, hr⟩ := h
  cases hc : c.sharing d key with
  | nil =>
    rw [hc] at hr
    cases hr
  | cons first rest =>
    exact (mem_sharing.1 (hc ▸ List.mem_cons_self .. : first ∈ c.sharing d key)).2

theorem reportGroups_eq (c : HierarchyCheck) (input : Schema) (k : Columns)
    (gs : Keyed (List Row)) :
    c.reportGroups input k gs = collect (fun g => c.reportGroup input k g.2 c.rules) gs := by
  induction gs with
  | nil => rfl
  | cons g rest ih => rw [reportGroups, collect, ih]

theorem reportGroups_groups (hs : d.schema.Discrete) (hl : d.Legible) {k : Columns}
    (hk : c.columns d.schema = .ok k) :
    c.reportGroups d.schema k (groups k d.rows) =
      collect (fun key => c.reportGroup d.schema k (c.sharing d key) c.rules) (c.sharedKeys d) := by
  rw [reportGroups_eq, groups_eq hk, collect_map, sharedKeys, collect_map]
  exact collect_congr fun first hf => by rw [members_eq hs hl hf]

theorem evaluate_perm (h : d.Rearranged e) (hd : d.Distinct) (hs : d.schema.Discrete)
    (hl : d.Legible) : Matched Dataset.Rearranged (c.evaluate d) (c.evaluate e) := by
  unfold evaluate rows
  rw [h.schema]
  refine .bind_same _ fun s _ => ?_
  refine Matched.bind (R := List.Perm) ?_ fun _ _ _ _ hp => .ok ⟨rfl, hp⟩
  refine .bind_same _ fun k hk => ?_
  have hk := liftModel_ok hk
  rw [reportGroups_groups hs hl hk, ← h.schema,
    reportGroups_groups (h.schema ▸ hs) (h.legible hl) (h.schema ▸ hk), h.schema]
  have hreport : ∀ key ∈ c.sharedKeys e, c.reportGroup d.schema k (c.sharing d key) c.rules =
      c.reportGroup d.schema k (c.sharing e key) c.rules := by
    intro key hm
    obtain ⟨r, hr, hrk⟩ := (mem_sharedKeys (h.schema ▸ hs) (h.legible hl)).1 hm
    have he : r ∈ c.sharing e key := mem_sharing.2 ⟨hr, hrk⟩
    refine reportGroup_congr hk (codeValue_perm h hd hl hk key) ?_ c.rules
    have hhead := sharedKey_headD ⟨r, he⟩
    rw [h.schema] at hhead
    rw [sharedKey_headD ⟨r, (sharing_perm h key).mem_iff.2 he⟩, hhead]
  rw [← collect_congr hreport]
  exact collect_perm _ (sharedKeys_perm h hs hl)

end Tabular.HierarchyCheck
