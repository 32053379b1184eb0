import Mathlib.Data.List.Nodup
import Mathlib.Data.List.Perm.Subperm
import Tabular.Proofs.Order.Rows
import Tabular.Proofs.Safety.Joins

set_option autoImplicit false

namespace Tabular

theorem Dataset.Distinct.unique {α : Type} {d : Dataset} (hd : d.Distinct) {names : List String}
    (hn : d.schema.identifierNames ⊆ names) {key : Row → Key}
    (hk : ∀ r, key r = names.map (d.schema.read r)) (f : Row → α) :
    Keyed.Unique (d.rows.map fun r => (key r, f r)) := by
  refine List.pairwise_map.2 (hd.imp fun {q r} hqr => ?_)
  refine Bool.eq_false_iff.2 fun hs => Bool.eq_false_iff.1 hqr ?_
  rw [hk, hk] at hs
  rw [rowKey, rowKey, Schema.key_eq, Schema.key_eq]
  exact Key.same_map.2 fun n hm => Key.same_map.1 hs n (hn hm)

/-- The last row that is inserted under a key is the only one. -/
theorem Dataset.Rearranged.find?_reverse {α : Type} {d e : Dataset} (h : d.Rearranged e)
    (hd : d.Distinct) {names : List String} (hn : d.schema.identifierNames ⊆ names)
    {columns : List Nat} (hc : d.schema.positions names = .ok columns) (f : Row → α) (k : Key) :
    Keyed.find? (d.rows.reverse.map fun r => (Row.key r columns, f r)) k =
      Keyed.find? (e.rows.reverse.map fun r => (Row.key r columns, f r)) k := by
  have hback := (List.reverse_perm d.rows).symm
  have hperm := (hback.symm.trans h.rows).trans (List.reverse_perm e.rows).symm
  have hunique := hd.unique hn (Schema.cells_positions hc) f
  exact Keyed.find?_perm (hperm.map _) (hunique.perm (hback.map _)) k

inductive Operand.Rearranged : Operand → Operand → Prop
  | scalar (v : Value) : Rearranged (.scalar v) (.scalar v)
  | dataset {d e : Dataset} (h : d.Rearranged e) : Rearranged (.dataset d) (.dataset e)

namespace MeasureMap

inductive Side.Alike : Side → Side → Prop
  | constant (v : Value) : Alike (.constant v) (.constant v)
  | leading : Alike .leading .leading
  | partner {m m' : Keyed Row} (h : ∀ k, m.find? k = m'.find? k) : Alike (.partner m) (.partner m')

variable {operands operands' : List Operand} {ss ss' : List Side}

theorem Side.Alike.part {s s' : Side} (h : s.Alike s') (key : Key) (leading : Row) :
    s.part key leading = s'.part key leading := by
  cases h with
  | constant v => rfl
  | leading => rfl
  | partner h => exact congrArg (Option.map Sum.inr) (h key)

theorem join_alike (h : List.Forall₂ Side.Alike ss ss') (key : Key) (leading : Row) :
    join key leading ss = join key leading ss' := by
  induction h with
  | nil => rfl
  | cons hs _ ih => rw [join, join, hs.part, ih]

theorem sides_perm {ids : List String} (led : Bool)
    (h : List.Forall₂ Operand.Rearranged operands operands')
    (hk : ∀ d, Operand.dataset d ∈ operands → d.Distinct ∧ d.schema.identifierNames ⊆ ids) :
    Matched (List.Forall₂ Side.Alike) (sides ids led operands) (sides ids led operands') := by
  induction h generalizing led with
  | nil => exact .ok .nil
  | cons ho _ ih =>
    have hrest := fun d hd => hk d (List.mem_cons_of_mem _ hd)
    cases ho with
    | scalar v => exact (ih led hrest).bind fun _ _ _ _ hs => .ok (.cons (.constant v) hs)
    | @dataset d e hr =>
      obtain ⟨hd, hn⟩ := hk d (List.mem_cons_self ..)
      rw [sides, sides, hr.schema]
      refine .bind_same _ fun columns hc => (ih true hrest).bind fun _ _ _ _ hs => .ok (.cons ?_ hs)
      cases led with
      | false => exact .leading
      | true => exact .partner (hr.find?_reverse hd hn hc id)

theorem sourceColumn_rearranged {o o' : Operand} (h : o.Rearranged o') (name : Option String) :
    sourceColumn name o = sourceColumn name o' := by
  cases h with
  | scalar v => rfl
  | dataset h =>
    cases name with
    | none => rfl
    | some n => rw [sourceColumn, sourceColumn, h.schema]

theorem sourceColumns_rearranged (h : List.Forall₂ Operand.Rearranged operands operands')
    (names : List (Option String)) :
    sourceColumns names operands = sourceColumns names operands' := by
  induction h generalizing names with
  | nil => rfl
  | cons ho _ ih =>
    cases names with
    | nil => rfl
    | cons n ns => rw [sourceColumns, sourceColumns, sourceColumn_rearranged ho, ih]

theorem outputColumns_rearranged (h : List.Forall₂ Operand.Rearranged operands operands')
    (outs : List MeasureOutput) : outputColumns operands outs = outputColumns operands' outs := by
  induction outs with
  | nil => rfl
  | cons o outs ih => rw [outputColumns, outputColumns, sourceColumns_rearranged h, ih]

def joined (today : Date) (ss : List Side) (columns : List Nat)
    (outs : List (MeasureOutput × List (Option Nat))) (r : Row) : Except EvalError (List Row) :=
  match join (Row.key r columns) r ss with
  | none => .ok []
  | some parts => (outputValues today parts outs).map fun values => [Row.key r columns ++ values]

theorem rows_eq (today : Date) (ss : List Side) (columns : List Nat)
    (outs : List (MeasureOutput × List (Option Nat))) (rs : List Row) :
    rows today ss columns outs rs = collect (joined today ss columns outs) rs := by
  induction rs with
  | nil => rfl
  | cons r rest ih =>
    rw [rows, collect, ih]
    cases hj : join (Row.key r columns) r ss with
    | none =>
      have hr : joined today ss columns outs r = .ok [] := by rw [joined, hj]
      rw [hr]
      cases collect (joined today ss columns outs) rest <;> rfl
    | some parts =>
      have hr : joined today ss columns outs r =
          (outputValues today parts outs).map fun values => [Row.key r columns ++ values] := by
        rw [joined, hj]
      rw [hr]
      dsimp only
      cases outputValues today parts outs <;> rfl

theorem leading_rearranged (h : List.Forall₂ Operand.Rearranged operands operands') :
    Option.Rel Dataset.Rearranged (operands.findSome? Operand.dataset?)
      (operands'.findSome? Operand.dataset?) := by
  induction h with
  | nil => exact .none
  | cons ho _ ih =>
    cases ho with
    | scalar v => exact ih
    | dataset h => exact .some h

theorem evaluate_perm {m : MeasureMap} (today : Date)
    (h : List.Forall₂ Operand.Rearranged operands operands')
    (hk : ∀ d, Operand.dataset d ∈ operands →
      d.Distinct ∧ d.schema.identifierNames ⊆ m.identifiers.map (·.name)) :
    Matched Dataset.Rearranged (m.evaluate today operands) (m.evaluate today operands') := by
  unfold evaluate
  refine .bind_same _ fun s _ => ?_
  have hleading := leading_rearranged h
  generalize operands.findSome? Operand.dataset? = x,
    operands'.findSome? Operand.dataset? = y at hleading ⊢
  cases hleading with
  | none => exact .error _ _
  | some hfirst =>
    refine (sides_perm false h hk).lift.bind fun ss ss' _ _ hss => ?_
    rw [outputColumns_rearranged h, hfirst.schema]
    refine .bind_same _ fun columns _ => .bind_same _ fun leading _ => ?_
    have hjoined : joined today ss leading (m.outputs.zip columns) =
        joined today ss' leading (m.outputs.zip columns) := by
      funext r
      rw [joined, joined, join_alike hss]
    rw [rows_eq, rows_eq, hjoined]
    exact (collect_perm _ hfirst.rows).bind fun _ _ _ _ hp => .ok ⟨rfl, hp⟩

end MeasureMap

namespace Keyed

variable {α : Type} {m m' side side' : Keyed α}

theorem insert_of_absent {k : Key} (h : m.contains k = false) (a : α) :
    m.insert k a = m ++ [(k, a)] := by
  induction m with
  | nil => rfl
  | cons p rest ih =>
    obtain ⟨hp, hrest⟩ := List.forall_mem_cons.1 (contains_eq_false.1 h)
    rw [insert, if_neg (Bool.eq_false_iff.1 hp), ih (contains_eq_false.2 hrest)]
    rfl

theorem foldl_insert_of_unique {xs : List (Key × α)} (h : Unique (m ++ xs)) :
    xs.foldl (fun m p => m.insert p.1 p.2) m = m ++ xs := by
  induction xs generalizing m with
  | nil => exact (List.append_nil m).symm
  | cons x xs ih =>
    obtain ⟨_, _, hacross⟩ := List.pairwise_append.1 h
    have habsent : m.contains x.1 = false :=
      contains_eq_false.2 fun p hp => hacross p hp x (List.mem_cons_self ..)
    rw [List.append_cons] at h ⊢
    rw [List.foldl_cons, insert_of_absent habsent, ih h]

theorem ofList_of_unique {xs : List (Key × α)} (h : Unique xs) : ofList xs = xs :=
  foldl_insert_of_unique h

theorem foldl_insertNew (hs : side.Unique) (acc : Keyed α) :
    side.foldl (fun m p => m.insertNew p.1 p.2) acc =
      acc ++ side.filter fun p => !acc.contains p.1 := by
  induction side generalizing acc with
  | nil => exact (List.append_nil acc).symm
  | cons p side ih =>
    obtain ⟨hp, hs⟩ := List.pairwise_cons.1 hs
    rw [List.foldl_cons, ih hs, insertNew, List.filter_cons]
    cases hc : acc.contains p.1 with
    | true => rfl
    | false =>
      have hfilter : (side.filter fun q => !Keyed.contains (acc ++ [(p.1, p.2)]) q.1) =
          side.filter fun q => !acc.contains q.1 := by
        refine List.filter_congr fun q hq => ?_
        have hpq := hp q hq
        simp [contains, hpq]
      simp [hfilter]

theorem filter_perm {p p' : Key × α → Bool} (h : m.Perm m') (hp : ∀ q, p q = p' q) :
    (List.filter p m).Perm (List.filter p' m') := by
  rw [funext hp]
  exact h.filter p'

end Keyed

namespace SetOp

variable {acc acc' side side' : Keyed Row}

theorem step_perm (op : SetOp) (ha : acc.Perm acc') (hs : side.Perm side') (hu : side.Unique) :
    (op.step acc side).Perm (op.step acc' side') := by
  have hacc := fun k => congrArg (!·) (Keyed.contains_perm ha k)
  have hside := fun k => congrArg (!·) (Keyed.contains_perm hs k)
  cases op with
  | union =>
    rw [step, step, Keyed.foldl_insertNew hu, Keyed.foldl_insertNew (hu.perm hs)]
    exact ha.append (Keyed.filter_perm hs fun q => hacc q.1)
  | intersect => exact Keyed.filter_perm ha fun q => Keyed.contains_perm hs q.1
  | setdiff => exact Keyed.filter_perm ha fun q => hside q.1
  | symdiff =>
    exact (Keyed.filter_perm ha fun q => hside q.1).append
      (Keyed.filter_perm hs fun q => hacc q.1)

def Shuffled (m m' : Keyed Row) : Prop := m.Unique ∧ m.Perm m'

theorem foldl_step_perm (op : SetOp) {sides sides' : List (Keyed Row)}
    (h : List.Forall₂ Shuffled sides sides') (ha : acc.Perm acc') :
    (sides.foldl op.step acc).Perm (sides'.foldl op.step acc') := by
  induction h generalizing acc acc' with
  | nil => exact ha
  | cons hs _ ih => exact ih (op.step_perm ha hs.2 hs.1)

/-- The dataset has distinct rows, and its identifiers are among those of the target. -/
def Alignable (target : Schema) (d : Dataset) : Prop :=
  d.Distinct ∧ d.schema.identifierNames ⊆ target.identifierNames

theorem aligned_perm {target : Schema} {d e : Dataset} (h : d.Rearranged e)
    (hd : Alignable target d) : Matched Shuffled (aligned target d) (aligned target e) := by
  unfold aligned
  rw [h.schema]
  refine .bind_same _ fun columns hc => ?_
  have hkey : ∀ r : Row, Row.key (r.project columns) target.identifierIndices =
      target.identifierNames.map (d.schema.read r) := by
    intro r
    rw [Schema.key_eq]
    exact List.map_congr_left fun n hn =>
      Schema.read_project hc (target.identifierNames_subset hn) r
  have hu := hd.1.unique hd.2 hkey fun r => r.project columns
  have hp := h.rows.map fun r =>
    (Row.key (r.project columns) target.identifierIndices, r.project columns)
  refine .ok ⟨?_, ?_⟩
  · rw [Keyed.ofList_of_unique hu]
    exact hu
  · rw [Keyed.ofList_of_unique hu, Keyed.ofList_of_unique (hu.perm hp)]
    exact hp

theorem alignedAll_perm {target : Schema} {ds es : List Dataset}
    (h : List.Forall₂ Dataset.Rearranged ds es) (hd : ∀ d ∈ ds, Alignable target d) :
    Matched (List.Forall₂ Shuffled) (alignedAll target ds) (alignedAll target es) := by
  induction h with
  | nil => exact .ok .nil
  | cons hr _ ih =>
    obtain ⟨h1, h2⟩ := List.forall_mem_cons.1 hd
    exact (aligned_perm hr h1).bind fun _ _ _ _ hm =>
      (ih h2).bind fun _ _ _ _ hms => .ok (.cons hm hms)

theorem evaluate_perm (op : SetOp) {first : Dataset} {rest es : List Dataset}
    (h : List.Forall₂ Dataset.Rearranged (first :: rest) es)
    (hd : ∀ d ∈ first :: rest, Alignable first.schema d) :
    Matched Dataset.Rearranged (op.evaluate (first :: rest)) (op.evaluate es) := by
  cases h with
  | cons hfirst hrest =>
    obtain ⟨h1, h2⟩ := List.forall_mem_cons.1 hd
    unfold evaluate
    dsimp only
    rw [hfirst.schema]
    refine (aligned_perm hfirst h1).lift.bind fun _ _ _ _ hm => ?_
    refine (alignedAll_perm hrest h2).lift.bind fun _ _ _ _ hms => ?_
    exact .ok ⟨rfl, (op.foldl_step_perm hms hm.2).map _⟩

theorem perm_of_compatible {s t : Schema} (h : s.compatible t = true) :
    s.components.Perm t.components := by
  have hsize : s.components.length = t.components.length :=
    eq_of_beq (Bool.and_eq_true_iff.1 h).1
  have hsub := (List.Nodup.of_map _ s.nodup).subperm (subset_of_compatible h)
  exact hsub.perm_of_length_le (Nat.le_of_eq hsize.symm)

theorem identifierNames_of_compatible {s t : Schema} (h : s.compatible t = true) :
    t.identifierNames ⊆ s.identifierNames := by
  intro n hn
  obtain ⟨c, hc, hi, rfl⟩ := Schema.mem_identifierNames.1 hn
  exact Schema.mem_identifierNames.2 ⟨c, (perm_of_compatible h).mem_iff.2 hc, hi, rfl⟩

end SetOp
end Tabular
