import Tabular.Proofs.Lifting.Slot
import Tabular.Proofs.Safety.Joins
import Tabular.Proofs.Shape

set_option autoImplicit false

namespace Tabular

theorem forall₂_ok {ε α β : Type} {f : α → Except ε β} {as : List α} {bs : List β}
    (h : List.Forall₂ (fun a b => f a = .ok b) as bs) (other : β) :
    (∀ a ∈ as, f a = .ok ((f a).toOption.getD other)) ∧
      as.map (fun a => (f a).toOption.getD other) = bs := by
  have hboth : List.Forall₂ (fun a b => f a = .ok ((f a).toOption.getD other) ∧
      (f a).toOption.getD other = b) as bs := by
    refine h.imp fun a b hab => ?_
    rw [hab]
    exact ⟨rfl, rfl⟩
  obtain ⟨hok, heq⟩ := (List.forall₂_and_left ..).1 hboth
  rw [← List.forall₂_map_left_iff, List.forall₂_eq_eq_eq] at heq
  exact ⟨hok, heq⟩

def Operand.part (r : Row) : Operand → Value ⊕ Row
  | .scalar v => .inl v
  | .dataset _ => .inr r

def Operand.at (measure : String) (r : Row) : Operand → Value
  | .scalar v => v
  | .dataset d => d.schema.read r measure

/-- What stands for an operand when a component is calculated. -/
def Compiled.component (m : Component) : Compiled → Scalar
  | .scalar e => e
  | .dataset _ => .read m.name m.type

namespace Compile

variable {c : Context} {today : Date}

theorem evalAll_forall₂ {as : List Compiled} {os : List Operand}
    (h : Compiled.evalAll c today as = .ok os) :
    List.Forall₂ (fun a o => a.eval c today = .ok o) as os := by
  induction as generalizing os with
  | nil =>
    rw [Compiled.evalAll] at h
    cases h
    exact .nil
  | cons a as ih =>
    rw [Compiled.evalAll] at h
    obtain ⟨o, ho, h⟩ := ok_of_bind h
    obtain ⟨rest, hr, h⟩ := ok_of_bind h
    cases eq_of_pure_ok h
    exact .cons ho (ih hr)

theorem eval_scalar_ok {e : Scalar} {o : Operand} (h : (Compiled.scalar e).eval c today = .ok o) :
    ∃ v, e.eval (c.scope today) = .ok v ∧ o = .scalar v := by
  rw [Compiled.eval] at h
  obtain ⟨v, hv, h⟩ := ok_of_bind h
  exact ⟨v, hv, (eq_of_pure_ok h).symm⟩

theorem eval_dataset_ok {p : Plan} {o : Operand} (h : (Compiled.dataset p).eval c today = .ok o) :
    ∃ d, p.eval c today = .ok d ∧ o = .dataset d := by
  rw [Compiled.eval] at h
  obtain ⟨d, hd, h⟩ := ok_of_bind h
  exact ⟨d, hd, (eq_of_pure_ok h).symm⟩

theorem like_of_eval {a : Compiled} {o : Operand} (h : a.eval c today = .ok o) : a.Like o := by
  cases a with
  | scalar e =>
    obtain ⟨v, _, rfl⟩ := eval_scalar_ok h
    exact .scalar e v
  | dataset p =>
    obtain ⟨d, _, rfl⟩ := eval_dataset_ok h
    exact .dataset p d

theorem evalAll_plans {as : List Compiled} {os : List Operand}
    (h : List.Forall₂ (fun a o => a.eval c today = .ok o) as os) :
    Plan.evalAll c today (plans as) = .ok (os.filterMap Operand.dataset?) := by
  induction h with
  | nil => rw [plans, List.filterMap_nil, Plan.evalAll, List.filterMap_nil]
  | cons ha _ ih =>
    rename_i a o as os _
    cases a with
    | scalar e =>
      obtain ⟨v, _, rfl⟩ := eval_scalar_ok ha
      exact ih
    | dataset p =>
      obtain ⟨d, hd, rfl⟩ := eval_dataset_ok ha
      rw [show plans (.dataset p :: _) = p :: plans _ from rfl, Plan.evalAll, hd, ih]
      rfl

theorem evalAll_component {as : List Compiled} {os : List Operand}
    (h : List.Forall₂ (fun a o => a.eval c today = .ok o) as os)
    (hclosed : ∀ e, .scalar e ∈ as → ∀ n t, ¬ e.Reads n t) {m : Component} {s : Schema}
    (hm : m.name ∈ s.names) (hs : ∀ d, .dataset d ∈ os → d.schema = s) (r : Row) :
    Scalar.evalAll (.ofRow s r (c.scope today)) (as.map (·.component m)) =
      .ok (os.map (·.at m.name r)) := by
  induction h with
  | nil => rw [List.map_nil, Scalar.evalAll, List.map_nil]
  | cons ha _ ih =>
    rename_i a o as os _
    have hrest := ih (fun e he => hclosed e (List.mem_cons_of_mem _ he))
      fun d hd => hs d (List.mem_cons_of_mem _ hd)
    have hone : (a.component m).eval (.ofRow s r (c.scope today)) = .ok (o.at m.name r) := by
      cases a with
      | scalar e =>
        obtain ⟨v, hv, rfl⟩ := eval_scalar_ok ha
        change e.eval _ = .ok v
        rw [← hv]
        exact e.eval_of_reads rfl fun n t hr =>
          absurd hr (hclosed e (List.mem_cons_self ..) n t)
      | dataset p =>
        obtain ⟨d, hd, rfl⟩ := eval_dataset_ok ha
        obtain ⟨i, hi⟩ := Schema.exists_indexOf? hm
        have hlookup : (Scope.ofRow s r (c.scope today)).lookup m.name = some (r.cell i) := by
          simp only [Scope.ofRow, hi]
        rw [Compiled.component, Scalar.eval, hlookup, Operand.at,
          hs d (List.mem_cons_self ..), Schema.read_of_indexOf? hi]
    rw [List.map_cons, Scalar.evalAll, hone, hrest]
    rfl

end Compile

namespace MeasureMap

open Compile

theorem join_alone {ids : List String} {led : Bool} {os : List Operand} {ss : List Side}
    (h : sides ids led os = .ok ss)
    (hone : (os.filterMap Operand.dataset?).length + led.toNat ≤ 1) (key : Key) (r : Row) :
    join key r ss = some (os.map (Operand.part r)) := by
  induction os generalizing led ss with
  | nil =>
    cases h
    rfl
  | cons o os ih =>
    cases o with
    | scalar v =>
      obtain ⟨others, ho, h⟩ := ok_of_bind h
      cases eq_of_pure_ok h
      rw [join, ih ho hone]
      rfl
    | dataset d =>
      obtain ⟨columns, _, h⟩ := ok_of_bind h
      obtain ⟨others, ho, h⟩ := ok_of_bind h
      cases eq_of_pure_ok h
      change (os.filterMap Operand.dataset?).length + 1 + led.toNat ≤ 1 at hone
      cases led with
      | true => exact absurd hone (by simp)
      | false =>
        rw [join, ih ho hone]
        rfl

theorem outputValues_ok {today : Date} {parts : List (Value ⊕ Row)} {outs : List MeasureOutput}
    {os : List Operand} {columns : List (List (Option Nat))} {values : List Value}
    (hc : outputColumns os outs = .ok columns)
    (h : outputValues today parts (outs.zip columns) = .ok values) :
    List.Forall₂ (fun o v => ∃ is, sourceColumns o.sources os = .ok is ∧
      o.operation.call today (List.zipWith argument parts is) = .ok v) outs values := by
  induction outs generalizing columns values with
  | nil =>
    cases hc
    cases h
    exact .nil
  | cons o outs ih =>
    obtain ⟨is, his, hc⟩ := ok_of_bind hc
    obtain ⟨more, hmore, hc⟩ := ok_of_bind hc
    cases eq_of_pure_ok hc
    obtain ⟨v, hv, h⟩ := ok_of_bind h
    obtain ⟨vs, hvs, h⟩ := ok_of_bind h
    cases eq_of_pure_ok h
    exact .cons ⟨is, his, hv⟩ (ih hmore hvs)

theorem rows_alone {today : Date} {ss : List Side} {columns : List Nat}
    {outs : List (MeasureOutput × List (Option Nat))} {parts : Row → List (Value ⊕ Row)}
    (hj : ∀ key r, join key r ss = some (parts r)) {rs out : List Row}
    (h : rows today ss columns outs rs = .ok out) :
    List.Forall₂ (fun r t => ∃ values, outputValues today (parts r) outs = .ok values ∧
      t = Row.key r columns ++ values) rs out := by
  induction rs generalizing out with
  | nil =>
    cases h
    exact .nil
  | cons r rest ih =>
    rw [rows, hj] at h
    obtain ⟨values, hv, h⟩ := ok_of_bind h
    obtain ⟨others, ho, h⟩ := ok_of_bind h
    cases eq_of_pure_ok h
    exact .cons ⟨values, hv, rfl⟩ (ih ho)

/-- Lifted over measures: every row of the dataset gives its key and, for each measure, the value
    of the operation on the operands there. -/
theorem evaluate_alone {c : Context} {today : Date} {as : List Compiled} {os : List Operand}
    (ho : List.Forall₂ (fun a o => a.eval c today = .ok o) as os) {d : Dataset}
    (hone : os.filterMap Operand.dataset? = [d]) {ids measures : List Component}
    {name : Component → String} {op : Component → Operation} {t : Dataset}
    (h : evaluate ⟨ids, measures.map fun m =>
      ⟨name m, op m, as.map (operandSource m.name)⟩⟩ today os = .ok t) :
    ∃ value : Row → Component → Value,
      (∀ r ∈ d.rows, ∀ m ∈ measures,
        (op m).call today (os.map (·.at m.name r)) = .ok (value r m)) ∧
      t.rows = d.rows.map fun r =>
        ids.map (fun i => d.schema.read r i.name) ++ measures.map (value r) := by
  obtain ⟨_, first, ss, columns, leading, hfirst, hs, hc, hl, hr⟩ := evaluate_ok h
  rw [← List.head?_filterMap, hone] at hfirst
  cases hfirst
  have hj (key : Key) (r : Row) : join key r ss = some (os.map (Operand.part r)) :=
    join_alone hs (by rw [hone]; exact Nat.le_refl 1) key r
  let value (r : Row) (m : Component) : Value :=
    ((op m).call today (os.map (·.at m.name r))).toOption.getD .null
  have hrows : List.Forall₂ (fun r t => (∀ m ∈ measures,
      (op m).call today (os.map (·.at m.name r)) = .ok (value r m)) ∧
      ids.map (fun i => d.schema.read r i.name) ++ measures.map (value r) = t) d.rows t.rows := by
    refine (rows_alone hj hr).imp fun r t => ?_
    rintro ⟨values, hv, rfl⟩
    have hcalls := outputValues_ok hc hv
    rw [List.forall₂_map_left_iff] at hcalls
    obtain ⟨hok, hmap⟩ := forall₂_ok (hcalls.imp fun m v hm => by
      obtain ⟨is, his, hcall⟩ := hm
      have hargs : List.zipWith argument (os.map (Operand.part r)) is = os.map (·.at m.name r) :=
        arguments_eq (ho.imp fun _ _ => like_of_eval) his (fun _ => ⟨rfl, rfl⟩)
          fun _ => ⟨r, rfl, rfl⟩
      rwa [hargs] at hcall) .null
    have hkey : Row.key r leading = ids.map fun i => d.schema.read r i.name := by
      rw [Row.key, Schema.cells_positions hl, List.map_map]
      rfl
    exact ⟨hok, by rw [hkey, ← hmap]⟩
  obtain ⟨hok, heq⟩ := (List.forall₂_and_left ..).1 hrows
  rw [← List.forall₂_map_left_iff, List.forall₂_eq_eq_eq] at heq
  exact ⟨value, hok, heq.symm⟩

end MeasureMap

theorem Schema.calculate_replacing {s : Schema} {cols : List Schema.Column}
    (h : ∀ col ∈ cols, ∃ c, s.get? col.name = some c ∧ c.isIdentifier = false) :
    ∃ t, s.calculate cols = .ok t ∧ t.names = s.names := by
  obtain ⟨cs, hcs, hn⟩ := assign_replacing h s.components
  have hnodup : (cs.map (·.name)).Nodup := hn ▸ s.nodup
  have hid : cs.any Component.isIdentifier = true := by
    obtain ⟨c, hc, hi⟩ := List.any_eq_true.1 s.identified
    refine List.any_eq_true.2 ⟨c, assign_mem hcs hc fun hm => ?_, hi⟩
    obtain ⟨col, hcol, he⟩ := List.mem_map.1 hm
    exact assign_not_identifier hcs col hcol (mem_identifierNames.2 ⟨c, hc, hi, he.symm⟩)
  refine ⟨⟨cs, hnodup, hid⟩, ?_, hn⟩
  rw [calculate, hcs]
  change liftModel (ofComponents (Schema.mk cs hnodup hid).components) = _
  rw [ofComponents_components]
  rfl

namespace Dataset

def measureColumn (e : Component → Scalar) (m : Component) : CalcColumn := ⟨m.name, .measure, e m⟩

theorem calculateRows_of_values {s : Schema} {outer : Scope} {measures : List Component}
    {e : Component → Scalar} {value : Row → Component → Value} {rs : List Row}
    (h : ∀ r ∈ rs, ∀ m ∈ measures, (e m).eval (.ofRow s r outer) = .ok (value r m))
    (slots : List Nat) (width : Nat) :
    calculateRows s (measures.map (measureColumn e)) slots width outer rs =
      .ok (rs.map fun r => (r.resize width).write (slots.zip (measures.map (value r)))) := by
  have hall (r : Row) (ms : List Component)
      (hm : ∀ m ∈ ms, (e m).eval (.ofRow s r outer) = .ok (value r m)) :
      Scalar.evalAll (.ofRow s r outer) ((ms.map (measureColumn e)).map (·.expression)) =
        .ok (ms.map (value r)) := by
    induction ms with
    | nil => rw [List.map_nil, List.map_nil, Scalar.evalAll, List.map_nil]
    | cons m ms ih =>
      obtain ⟨hone, hrest⟩ := List.forall_mem_cons.1 hm
      rw [List.map_cons, List.map_cons, Scalar.evalAll, measureColumn, hone, ih hrest]
      rfl
  induction rs with
  | nil => rfl
  | cons r rs ih =>
    obtain ⟨hr, hrest⟩ := List.forall_mem_cons.1 h
    rw [calculateRows, calculateRow, hall r measures hr, ih hrest]
    rfl

variable {d : Dataset} {e : Component → Scalar}

theorem measureColumn_names (e : Component → Scalar) (ms : List Component) :
    (ms.map (measureColumn e)).map (·.name) = ms.map (·.name) := by
  rw [List.map_map]
  rfl

theorem measureColumn_replaces {s : Schema} (e : Component → Scalar) :
    ∀ col ∈ (s.measures.map (measureColumn e)).map (·.column),
      ∃ c, s.get? col.name = some c ∧ c.isIdentifier = false := by
  intro col hcol
  obtain ⟨_, hc, rfl⟩ := List.mem_map.1 hcol
  obtain ⟨m, hm, rfl⟩ := List.mem_map.1 hc
  obtain ⟨hm, hmeasure⟩ := List.mem_filter.1 hm
  exact ⟨m, Schema.get?_eq_some.2 ⟨hm, rfl⟩, Component.not_isIdentifier_of_isMeasure hmeasure⟩

/-- Measures that are calculated anew stand where they were, with the values of the expressions;
    identifiers are as they were. -/
theorem exists_calculate {outer : Scope} {value : Row → Component → Value}
    (h : ∀ r ∈ d.rows, ∀ m ∈ d.schema.measures,
      (e m).eval (.ofRow d.schema r outer) = .ok (value r m)) :
    ∃ t, d.calculate (d.schema.measures.map (measureColumn e)) outer = .ok t ∧
      t.schema.names = d.schema.names ∧
      List.Forall₂ (fun r u => (∀ n ∈ d.schema.identifierNames,
          t.schema.read u n = d.schema.read r n) ∧
        ∀ m ∈ d.schema.measures, t.schema.read u m.name = value r m) d.rows t.rows := by
  obtain ⟨s, hs, hsame⟩ := Schema.calculate_replacing (measureColumn_replaces e)
  have hmeasures : ∀ n ∈ d.schema.measures.map (·.name), n ∈ s.names := by
    intro n hn
    obtain ⟨m, hm, rfl⟩ := List.mem_map.1 hn
    rw [hsame]
    exact Schema.mem_names.2 ⟨m, List.mem_of_mem_filter hm, rfl⟩
  obtain ⟨slots, hslots⟩ := Schema.exists_positions hmeasures
  rw [← measureColumn_names e] at hslots
  refine ⟨⟨s, d.rows.map fun r =>
    (r.resize s.size).write (slots.zip (d.schema.measures.map (value r)))⟩, ?_, hsame, ?_⟩
  · have hany : (d.schema.measures.map (measureColumn e)).any (·.role == .identifier) = false := by
      rw [List.any_map]
      exact List.any_eq_false.2 fun _ _ => nofun
    rw [calculate, hs]
    change (liftModel (s.positions _) >>= _) = _
    rw [hslots]
    change (calculateRows d.schema _ slots s.size outer d.rows >>= _) = _
    rw [calculateRows_of_values h]
    change (if _ = true then _ else _) = _
    rw [hany]
    rfl
  · rw [List.forall₂_map_right_iff, List.forall₂_same]
    intro r _
    refine ⟨fun n hn => ?_, fun m hm => ?_⟩
    · have hnot := Schema.assign_not_identifier (Schema.calculate_ok hs)
      have hcolumns : s.positions (((d.schema.measures.map (measureColumn e)).map
          (·.column)).map (·.name)) = .ok slots := by
        rw [List.map_map]
        exact hslots
      refine Schema.read_write hs hcolumns r _ (d.schema.identifierNames_subset hn) fun hc => ?_
      obtain ⟨col, hcol, rfl⟩ := List.mem_map.1 hc
      exact hnot col hcol hn
    · have hnodup : ((d.schema.measures.map (measureColumn e)).map (·.name)).Nodup := by
        rw [measureColumn_names]
        exact d.schema.nodup.sublist (List.filter_sublist.map _)
      refine Schema.read_write_self hslots hnodup (Row.length_resize r s.size) (by simp) ?_
      rw [measureColumn_names, List.zip_map']
      exact List.mem_map.2 ⟨m, hm, rfl⟩

end Dataset
end Tabular
