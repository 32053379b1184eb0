import Tabular.Compile.Lift
import Tabular.Proofs.Safety.Rows

set_option autoImplicit false

namespace Tabular

namespace SetOp

/-- Every row held satisfies `P`. -/
def Held (P : Row → Prop) (m : Keyed Row) : Prop := ∀ p ∈ m, P p.2

variable {P : Row → Prop} {s : Schema}

theorem held_foldl_insert {xs : List (Key × Row)} (hx : Held P xs) {m : Keyed Row} (h : Held P m) :
    Held P (xs.foldl (fun m p => m.insert p.1 p.2) m) := by
  induction xs generalizing m with
  | nil => exact h
  | cons x xs ih =>
    obtain ⟨hx1, hx2⟩ := List.forall_mem_cons.1 hx
    refine ih hx2 fun p hp => ?_
    rcases Keyed.mem_insert hp with hp | ⟨hr, _⟩
    · exact h p hp
    · rw [hr]
      exact hx1

theorem held_foldl_insertNew {xs : Keyed Row} (hx : Held P xs) {m : Keyed Row} (h : Held P m) :
    Held P (xs.foldl (fun m p => m.insertNew p.1 p.2) m) := by
  induction xs generalizing m with
  | nil => exact h
  | cons x xs ih =>
    obtain ⟨hx1, hx2⟩ := List.forall_mem_cons.1 hx
    refine ih hx2 fun p hp => ?_
    rcases Keyed.mem_insertNew hp with hp | rfl
    · exact h p hp
    · exact hx1

theorem held_step {op : SetOp} {acc side : Keyed Row} (h : Held P acc) (hs : Held P side) :
    Held P (op.step acc side) := by
  cases op with
  | union => exact held_foldl_insertNew hs h
  | intersect => exact fun p hp => h p (List.mem_of_mem_filter hp)
  | setdiff => exact fun p hp => h p (List.mem_of_mem_filter hp)
  | symdiff =>
    intro p hp
    rcases List.mem_append.1 hp with hp | hp
    · exact h p (List.mem_of_mem_filter hp)
    · exact hs p (List.mem_of_mem_filter hp)

theorem held_foldl_step (op : SetOp) {sides : List (Keyed Row)} (hs : ∀ m ∈ sides, Held P m)
    {acc : Keyed Row} (h : Held P acc) : Held P (sides.foldl op.step acc) := by
  induction sides generalizing acc with
  | nil => exact h
  | cons m sides ih =>
    obtain ⟨hm, hs⟩ := List.forall_mem_cons.1 hs
    exact ih hs (held_step h hm)

theorem held_aligned {d : Dataset} {m : Keyed Row} (h : aligned s d = .ok m)
    (hd : ∀ columns, d.schema.positions s.names = .ok columns →
      ∀ r ∈ d.rows, P (r.project columns)) : Held P m := by
  obtain ⟨columns, hc, h⟩ := ok_of_bind h
  rw [← eq_of_pure_ok h]
  refine held_foldl_insert (fun p hp => ?_) fun _ hp => absurd hp List.not_mem_nil
  obtain ⟨r, hr, rfl⟩ := List.mem_map.1 hp
  exact hd columns hc r hr

theorem held_alignedAll {ds : List Dataset} {ms : List (Keyed Row)} (h : alignedAll s ds = .ok ms)
    (hd : ∀ d ∈ ds, ∀ columns, d.schema.positions s.names = .ok columns →
      ∀ r ∈ d.rows, P (r.project columns)) : ∀ m ∈ ms, Held P m := by
  induction ds generalizing ms with
  | nil =>
    cases h
    exact fun _ hm => absurd hm List.not_mem_nil
  | cons d ds ih =>
    obtain ⟨h1, h2⟩ := List.forall_mem_cons.1 hd
    obtain ⟨m, hm, h⟩ := ok_of_bind h
    obtain ⟨rest, hr, h⟩ := ok_of_bind h
    cases eq_of_pure_ok h
    exact List.forall_mem_cons.2 ⟨held_aligned hm h1, ih hr h2⟩

theorem exists_aligned {d : Dataset} (hsub : s.components ⊆ d.schema.components) :
    ∃ m, aligned s d = .ok m := by
  obtain ⟨columns, hx⟩ := Schema.exists_positions fun n hn => Schema.names_subset hsub hn
  exact ⟨_, by rw [aligned, hx]; rfl⟩

theorem exists_alignedAll {ds : List Dataset}
    (hd : ∀ d ∈ ds, s.components ⊆ d.schema.components) : ∃ ms, alignedAll s ds = .ok ms := by
  induction ds with
  | nil => exact ⟨[], rfl⟩
  | cons d ds ih =>
    obtain ⟨hsub, hrest⟩ := List.forall_mem_cons.1 hd
    obtain ⟨m, hm⟩ := exists_aligned hsub
    obtain ⟨ms, hms⟩ := ih hrest
    refine ⟨m :: ms, ?_⟩
    rw [alignedAll, hm, hms]
    rfl

theorem subset_of_compatible {t : Schema} (h : s.compatible t = true) :
    s.components ⊆ t.components := by
  intro c hc
  have hall := (Bool.and_eq_true_iff.1 h).2
  have hg : t.get? c.name = some c := by simpa using List.all_eq_true.1 hall c hc
  exact (Schema.get?_eq_some.1 hg).1

theorem held_evaluate {op : SetOp} {first e : Dataset} {rest : List Dataset}
    (h : op.evaluate (first :: rest) = .ok e)
    (hd : ∀ d ∈ first :: rest, ∀ columns, d.schema.positions first.schema.names = .ok columns →
      ∀ r ∈ d.rows, P (r.project columns)) : ∀ r ∈ e.rows, P r := by
  obtain ⟨hfirst, hrest⟩ := List.forall_mem_cons.1 hd
  obtain ⟨head, hh, h⟩ := ok_of_bind h
  obtain ⟨sides, hs, h⟩ := ok_of_bind h
  cases eq_of_pure_ok h
  intro r hr
  obtain ⟨p, hp, rfl⟩ := List.mem_map.1 hr
  exact held_foldl_step op (held_alignedAll (liftModel_ok hs) hrest)
    (held_aligned (liftModel_ok hh) hfirst) p hp

theorem safe_evaluate {op : SetOp} {first : Dataset} {rest : List Dataset}
    (hfirst : first.Conforms)
    (hrest : ∀ d ∈ rest, first.schema.compatible d.schema = true ∧ d.Conforms) :
    Safe Dataset.Conforms (op.evaluate (first :: rest)) := by
  have hsub : ∀ d ∈ first :: rest,
      first.schema.components ⊆ d.schema.components ∧ d.Conforms :=
    List.forall_mem_cons.2 ⟨⟨List.Subset.refl _, hfirst⟩, fun d hd =>
      ⟨subset_of_compatible (hrest d hd).1, (hrest d hd).2⟩⟩
  obtain ⟨head, hh⟩ := exists_aligned (hsub first (List.mem_cons_self ..)).1
  obtain ⟨sides, hs⟩ := exists_alignedAll fun d hd => (hsub d (List.mem_cons_of_mem _ hd)).1
  have he : op.evaluate (first :: rest) =
      .ok ⟨first.schema, (sides.foldl op.step head).map (·.2)⟩ := by
    unfold evaluate
    dsimp only
    rw [hh, hs]
    rfl
  have hrows := held_evaluate he fun d hd columns hc r hr =>
    ((hsub d hd).2 r hr).project (hsub d hd).1 hc
  rw [he]
  exact hrows

end SetOp

def Compiled.Yields : Compiled → Operand → Prop
  | .scalar e, .scalar v => v.Fits e.type?
  | .dataset p, .dataset d => d.schema = p.schema ∧ d.Conforms
  | _, _ => False

def Compiled.Shaped : Compiled → Operand → Prop
  | .scalar _, .scalar _ => True
  | .dataset p, .dataset d => d.schema = p.schema
  | _, _ => False

theorem Compiled.Yields.shaped {c : Compiled} {o : Operand} (h : c.Yields o) : c.Shaped o := by
  cases c with
  | scalar _ => cases o <;> trivial
  | dataset _ =>
    cases o with
    | scalar _ => exact h
    | dataset _ => exact h.1

inductive Compiled.Like : Compiled → Operand → Prop
  | scalar (e : Scalar) (v : Value) : Like (.scalar e) (.scalar v)
  | dataset (p : Plan) (d : Dataset) : Like (.dataset p) (.dataset d)

theorem Compiled.Shaped.like {c : Compiled} {o : Operand} (h : c.Shaped o) : c.Like o := by
  cases c with
  | scalar e =>
    cases o with
    | scalar v => exact .scalar e v
    | dataset d => exact h.elim
  | dataset p =>
    cases o with
    | scalar v => exact h.elim
    | dataset d => exact .dataset p d

theorem Operand.mem_of_leading {operands : List Operand} {first : Dataset}
    (h : operands.findSome? Operand.dataset? = some first) : Operand.dataset first ∈ operands := by
  obtain ⟨o, hm, he⟩ := List.exists_of_findSome?_eq_some h
  cases o with
  | scalar v => cases he
  | dataset d =>
    cases he
    exact hm

namespace MeasureMap

open Compile

/-- What an operand contributes to a joined row. -/
def Contributes : Operand → Value ⊕ Row → Prop
  | .scalar v, .inl w => w = v
  | .dataset d, .inr r => d.schema.Admits r
  | _, _ => False

theorem join_cons {key : Key} {leading : Row} {side : Side} {rest : List Side}
    {parts : List (Value ⊕ Row)} (h : join key leading (side :: rest) = some parts) :
    ∃ p ps, side.part key leading = some p ∧ join key leading rest = some ps ∧
      parts = p :: ps := by
  obtain ⟨p, hp, h⟩ := Option.bind_eq_some_iff.1 h
  obtain ⟨ps, hps, h⟩ := Option.bind_eq_some_iff.1 h
  cases h
  exact ⟨p, ps, hp, hps, rfl⟩

theorem contributes_of_join {ids : List String} {led : Bool} {operands : List Operand}
    {ss : List Side} (h : sides ids led operands = .ok ss)
    (ho : ∀ d, Operand.dataset d ∈ operands → d.Conforms) {leading : Row}
    (hl : led = false → ∀ d, operands.findSome? Operand.dataset? = some d →
      d.schema.Admits leading) {key : Key} {parts : List (Value ⊕ Row)}
    (hj : join key leading ss = some parts) : List.Forall₂ Contributes operands parts := by
  induction operands generalizing led ss parts with
  | nil =>
    cases h
    cases hj
    exact .nil
  | cons o operands ih =>
    have hrest : ∀ d, Operand.dataset d ∈ operands → d.Conforms :=
      fun d hd => ho d (List.mem_cons_of_mem _ hd)
    cases o with
    | scalar v =>
      obtain ⟨others, hs, h⟩ := ok_of_bind h
      cases eq_of_pure_ok h
      obtain ⟨p, ps, hp, hps, rfl⟩ := join_cons hj
      cases hp
      exact .cons rfl (ih hs hrest hl hps)
    | dataset d =>
      obtain ⟨columns, _, h⟩ := ok_of_bind h
      obtain ⟨others, hs, h⟩ := ok_of_bind h
      cases eq_of_pure_ok h
      obtain ⟨p, ps, hp, hps, rfl⟩ := join_cons hj
      refine .cons ?_ (ih hs hrest nofun hps)
      cases led with
      | false =>
        cases hp
        exact hl rfl d rfl
      | true =>
        obtain ⟨_, hfound, rfl⟩ := Option.map_eq_some_iff.1 hp
        obtain ⟨q, hq, rfl⟩ := Option.map_eq_some_iff.1 hfound
        obtain ⟨r, hr, rfl⟩ := List.mem_map.1 (List.mem_of_find?_eq_some hq)
        exact ho d (List.mem_cons_self ..) r (List.mem_reverse.1 hr)

theorem arguments_fit {measure : String} {compiled : List Compiled} {operands : List Operand}
    (hy : List.Forall₂ Compiled.Yields compiled operands) {parts : List (Value ⊕ Row)}
    (hp : List.Forall₂ Contributes operands parts) {columns : List (Option Nat)}
    (hc : sourceColumns (compiled.map (operandSource measure)) operands = .ok columns) :
    List.Forall₂ Value.Fits (List.zipWith argument parts columns)
      (compiled.map (operandType measure)) := by
  induction hy generalizing parts columns with
  | nil =>
    cases hp
    exact .nil
  | cons hyield _ ih =>
    rename_i c o compiled operands _
    cases hp with
    | cons hpart hp =>
      rename_i part parts
      obtain ⟨i, hi, hc⟩ := ok_of_bind hc
      obtain ⟨is, his, hc⟩ := ok_of_bind hc
      cases eq_of_pure_ok hc
      refine .cons ?_ (ih hp his)
      cases c with
      | scalar e =>
        cases o with
        | dataset d => exact hyield.elim
        | scalar v =>
          cases part with
          | inr r => exact hpart.elim
          | inl w =>
            cases hpart
            exact hyield
      | dataset p =>
        cases o with
        | scalar v => exact hyield.elim
        | dataset d =>
          cases part with
          | inl w => exact hpart.elim
          | inr r =>
            change (d.schema.position measure).map some = .ok i at hi
            cases hpos : d.schema.position measure with
            | error e =>
              rw [hpos] at hi
              cases hi
            | ok j =>
              rw [hpos] at hi
              cases hi
              have hx := Schema.position_ok.1 hpos
              obtain ⟨m, hm, rfl⟩ := Schema.getElem?_of_indexOf? hx
              have hmem := List.mem_of_getElem? hm
              have hv := Schema.Admits.read hpart hmem
              rw [Schema.read_of_indexOf? hx] at hv
              have hg : p.schema.get? m.name = some m := by
                rw [← hyield.1]
                exact Schema.get?_eq_some.2 ⟨hmem, rfl⟩
              change Value.Fits (r.cell j) ((p.schema.get? m.name).map (·.type))
              rw [hg]
              exact hv

/-- The arguments at the columns of a measure are scalars and what rows of the datasets read. -/
theorem arguments_eq {compiled : List Compiled} {operands : List Operand}
    (hk : List.Forall₂ Compiled.Like compiled operands) {measure : String}
    {columns : List (Option Nat)}
    (hc : sourceColumns (compiled.map (operandSource measure)) operands = .ok columns)
    {part : Operand → Value ⊕ Row} {value : Operand → Value}
    (hscalar : ∀ v, part (.scalar v) = .inl v ∧ value (.scalar v) = v)
    (hdataset : ∀ d, ∃ r, part (.dataset d) = .inr r ∧
      value (.dataset d) = d.schema.read r measure) :
    List.zipWith argument (operands.map part) columns = operands.map value := by
  induction hk generalizing columns with
  | nil => rfl
  | cons hlike _ ih =>
    obtain ⟨i, hi, hc⟩ := ok_of_bind hc
    obtain ⟨is, his, hc⟩ := ok_of_bind hc
    cases eq_of_pure_ok hc
    rw [List.map_cons, List.map_cons, List.zipWith_cons_cons, ih his]
    congr 1
    cases hlike with
    | scalar e v =>
      rw [(hscalar v).1, (hscalar v).2]
      rfl
    | dataset p d =>
      obtain ⟨r, hpart, hvalue⟩ := hdataset d
      rw [hpart, hvalue]
      change (d.schema.position measure).map some = .ok i at hi
      cases hp : d.schema.position measure with
      | error e =>
        rw [hp] at hi
        cases hi
      | ok j =>
        rw [hp] at hi
        cases hi
        exact (Schema.read_of_indexOf? (Schema.position_ok.1 hp) r).symm

/-- The output applies an operation, which is sound for the types of the operands, to a measure
    that all datasets have. -/
def Ready (compiled : List Compiled) (o : MeasureOutput) : Prop :=
  ∃ measure, o.sources = compiled.map (operandSource measure) ∧
    o.operation.Sound (compiled.map (operandType measure)) ∧
    ∀ p, Compiled.dataset p ∈ compiled → measure ∈ p.schema.names

theorem exists_sourceColumns {measure : String} {compiled : List Compiled}
    {operands : List Operand} (hy : List.Forall₂ Compiled.Shaped compiled operands)
    (hm : ∀ p, Compiled.dataset p ∈ compiled → measure ∈ p.schema.names) :
    ∃ columns, sourceColumns (compiled.map (operandSource measure)) operands = .ok columns := by
  induction hy with
  | nil => exact ⟨[], rfl⟩
  | cons hshape _ ih =>
    rename_i c o compiled operands _
    obtain ⟨is, his⟩ := ih fun p hp => hm p (List.mem_cons_of_mem _ hp)
    have hone : ∃ i, sourceColumn (operandSource measure c) o = .ok i := by
      cases c with
      | scalar e => exact ⟨none, rfl⟩
      | dataset p =>
        cases o with
        | scalar v => exact hshape.elim
        | dataset d =>
          have hn : measure ∈ d.schema.names := by
            rw [show d.schema = p.schema from hshape]
            exact hm p (List.mem_cons_self ..)
          obtain ⟨i, hi⟩ := Schema.exists_indexOf? hn
          refine ⟨some i, ?_⟩
          change (d.schema.position measure).map some = .ok (some i)
          rw [Schema.position_ok.2 hi]
          rfl
    obtain ⟨i, hi⟩ := hone
    refine ⟨i :: is, ?_⟩
    rw [List.map_cons, sourceColumns, hi, his]
    rfl

theorem exists_outputColumns {compiled : List Compiled} {operands : List Operand}
    (hy : List.Forall₂ Compiled.Shaped compiled operands) {outs : List MeasureOutput}
    (ho : ∀ o ∈ outs, ∃ measure, o.sources = compiled.map (operandSource measure) ∧
      ∀ p, Compiled.dataset p ∈ compiled → measure ∈ p.schema.names) :
    ∃ columns, outputColumns operands outs = .ok columns ∧
      List.Forall₂ (fun o is => sourceColumns o.sources operands = .ok is) outs columns := by
  induction outs with
  | nil => exact ⟨[], rfl, .nil⟩
  | cons o outs ih =>
    obtain ⟨⟨measure, hs, hm⟩, hrest⟩ := List.forall_mem_cons.1 ho
    obtain ⟨is, his⟩ := exists_sourceColumns hy hm
    rw [← hs] at his
    obtain ⟨columns, hc, hf⟩ := ih hrest
    refine ⟨is :: columns, ?_, .cons his hf⟩
    rw [outputColumns, his, hc]
    rfl

theorem safe_outputValues (today : Date) {compiled : List Compiled} {operands : List Operand}
    (hy : List.Forall₂ Compiled.Yields compiled operands) {parts : List (Value ⊕ Row)}
    (hp : List.Forall₂ Contributes operands parts) {outs : List MeasureOutput}
    {columns : List (List (Option Nat))}
    (hc : List.Forall₂ (fun o is => sourceColumns o.sources operands = .ok is) outs columns)
    (ho : ∀ o ∈ outs, Ready compiled o) :
    Safe (Conform (outs.map fun o => .measure o.name o.operation.result))
      (outputValues today parts (outs.zip columns)) := by
  induction hc with
  | nil => exact .nil
  | cons his _ ih =>
    obtain ⟨⟨measure, hs, hsound, _⟩, hrest⟩ := List.forall_mem_cons.1 ho
    rw [hs] at his
    rw [List.zip_cons_cons, outputValues]
    refine (hsound today _ (arguments_fit hy hp his)).bind fun v hv => ?_
    exact (ih hrest).bind fun vs hvs => .cons hv hvs

theorem exists_sides {ids : List String} (led : Bool) {operands : List Operand}
    (ho : ∀ d, Operand.dataset d ∈ operands → ∀ n ∈ ids, n ∈ d.schema.names) :
    ∃ ss, sides ids led operands = .ok ss := by
  induction operands generalizing led with
  | nil => exact ⟨[], rfl⟩
  | cons o operands ih =>
    have hrest : ∀ d, Operand.dataset d ∈ operands → ∀ n ∈ ids, n ∈ d.schema.names :=
      fun d hd => ho d (List.mem_cons_of_mem _ hd)
    cases o with
    | scalar v =>
      obtain ⟨ss, hs⟩ := ih led hrest
      refine ⟨.constant v :: ss, ?_⟩
      rw [sides, hs]
      rfl
    | dataset d =>
      obtain ⟨ss, hs⟩ := ih true hrest
      obtain ⟨columns, hx⟩ := Schema.exists_positions (ho d (List.mem_cons_self ..))
      exact ⟨_, by rw [sides, hx, hs]; rfl⟩

theorem safe_rows (today : Date) {ss : List Side} {columns : List Nat}
    {outs : List (MeasureOutput × List (Option Nat))} {ids ms : List Component}
    {rs : List Row} (hk : ∀ r ∈ rs, Conform ids (Row.key r columns))
    (hv : ∀ r ∈ rs, ∀ parts, join (Row.key r columns) r ss = some parts →
      Safe (Conform ms) (outputValues today parts outs)) :
    Safe (fun out => ∀ r ∈ out, Conform (ids ++ ms) r) (rows today ss columns outs rs) := by
  induction rs with
  | nil => exact fun _ hr => absurd hr List.not_mem_nil
  | cons r rest ih =>
    obtain ⟨hk1, hk2⟩ := List.forall_mem_cons.1 hk
    obtain ⟨hv1, hv2⟩ := List.forall_mem_cons.1 hv
    unfold rows
    dsimp only
    split
    · exact ih hk2 hv2
    · rename_i parts hj
      refine (hv1 parts hj).bind fun values hvalues => ?_
      exact (ih hk2 hv2).bind fun others ho =>
        List.forall_mem_cons.2 ⟨hk1.append hvalues, ho⟩

theorem yields_dataset {compiled : List Compiled} {operands : List Operand}
    (hy : List.Forall₂ Compiled.Yields compiled operands) {d : Dataset}
    (hd : Operand.dataset d ∈ operands) :
    ∃ p, Compiled.dataset p ∈ compiled ∧ d.schema = p.schema ∧ d.Conforms := by
  obtain ⟨c, hc, hyield⟩ := exists_left_of_mem hy hd
  cases c with
  | scalar e => exact hyield.elim
  | dataset p => exact ⟨p, hc, hyield⟩

theorem safe_evaluate (today : Date) {compiled : List Compiled} {operands : List Operand}
    (hy : List.Forall₂ Compiled.Yields compiled operands) {first : Dataset}
    (hf : operands.findSome? Operand.dataset? = some first) {m : MeasureMap} {s : Schema}
    (hs : m.schema = .ok s) (hi : m.identifiers = first.schema.identifiers)
    (hids : ∀ p, Compiled.dataset p ∈ compiled →
      ∀ n ∈ first.schema.identifierNames, n ∈ p.schema.names)
    (ho : ∀ o ∈ m.outputs, Ready compiled o) :
    Safe Dataset.Conforms (m.evaluate today operands) := by
  have hnames : m.identifiers.map (·.name) = first.schema.identifierNames := by
    rw [hi]
    rfl
  obtain ⟨_, _, _, hcf⟩ := yields_dataset hy (Operand.mem_of_leading hf)
  obtain ⟨ss, hss⟩ : ∃ ss, sides first.schema.identifierNames false operands = .ok ss := by
    refine exists_sides false fun d hd n hn => ?_
    obtain ⟨p, hp, he, _⟩ := yields_dataset hy hd
    rw [he]
    exact hids p hp n hn
  obtain ⟨columns, hc, hcols⟩ := exists_outputColumns (hy.imp fun _ _ h => h.shaped)
    fun o hm => (ho o hm).imp fun _ h => ⟨h.1, h.2.2⟩
  obtain ⟨leading, hl⟩ := Schema.exists_positions fun n hn => first.schema.identifierNames_subset hn
  have hkey : ∀ r ∈ first.rows, Conform m.identifiers (Row.key r leading) := by
    intro r hr
    rw [Row.key, Schema.cells_positions hl, ← first.schema.key_eq, hi]
    exact (hcf r hr).key
  have hvalues : ∀ r ∈ first.rows, ∀ parts, join (Row.key r leading) r ss = some parts →
      Safe (Conform (m.outputs.map fun o => .measure o.name o.operation.result))
        (outputValues today parts (m.outputs.zip columns)) := by
    intro r hr parts hj
    refine safe_outputValues today hy (contributes_of_join hss ?_ ?_ hj) hcols ho
    · intro d hd
      obtain ⟨_, _, _, hcd⟩ := yields_dataset hy hd
      exact hcd
    · intro _ d hd
      rw [hf] at hd
      cases hd
      exact hcf r hr
  rw [evaluate_eq_rows hs hf (hnames ▸ hss) hc (hnames ▸ hl)]
  refine (safe_rows today hkey hvalues).bind fun rows hrows r hr => ?_
  change Conform s.components r
  rw [Schema.components_of_ofComponents hs]
  exact hrows r hr

end MeasureMap
end Tabular
