import Mathlib.Data.List.Perm.Subperm
import Tabular.Proofs.Safety.Joins
import Tabular.Proofs.Uniqueness

set_option autoImplicit false

namespace Tabular

namespace Compile

def Frame.Provides (f : Frame) (component : String) (type : ScalarType) : Prop :=
  ∃ n, f.get? n = some (component, type)

theorem Frame.mem_of_provides {f : Frame} {component : String} {type : ScalarType}
    (h : f.Provides component type) : ∃ e ∈ f, e.2 = (component, type) := by
  obtain ⟨n, hn⟩ := h
  obtain ⟨e, he, heq⟩ := Option.map_eq_some_iff.1 hn
  exact ⟨e, List.mem_of_find?_eq_some he, heq⟩

theorem Frame.not_provides_nil (component : String) (type : ScalarType) :
    ¬ Frame.Provides [] component type := by
  rintro ⟨n, hn⟩
  cases hn

theorem Frame.declares_of_ofSchema {s : Schema} {n : String} {t : ScalarType}
    (h : (Frame.ofSchema s).Provides n t) : s.Declares n t := by
  obtain ⟨e, he, heq⟩ := Frame.mem_of_provides h
  obtain ⟨c, hc, rfl⟩ := List.mem_map.1 he
  cases heq
  exact ⟨c, hc, rfl, rfl⟩

end Compile

def Compiled.Sound (c : Context) (today : Date) (f : Compile.Frame) : Compiled → Prop
  | .scalar e => e.Typed f.Provides
  | .dataset p => f = [] → Safe Dataset.Conforms (p.eval c today)

namespace Scalar

theorem Typed.imp {reads others : String → ScalarType → Prop} {e : Scalar} (h : e.Typed reads)
    (hr : ∀ n t, reads n t → others n t) : e.Typed others :=
  h.of_reads fun n t hn => hr n t (h.declared hn)

theorem covers_nil (s : Scope) : Covers s (Compile.Frame.Provides []) :=
  fun n t h => absurd h (Compile.Frame.not_provides_nil n t)

end Scalar

namespace Compile

variable {env : Env} {today : Date} {f : Frame}

theorem sound_fold {e : Scalar} (h : e.Typed f.Provides) :
    (env.fold (.scalar e)).Sound env.context today f := by
  unfold Env.fold
  dsimp only
  split
  · exact h.fold
  · exact h

theorem widenBranch_type {type : Option ScalarType} {e : Scalar}
    (h : e.type? = none ∨ e.type? = type ∨
      type = some .number ∧ ∃ a, e.type? = some a ∧ a.isNumeric = true) :
    (widenBranch type e).type? = none ∨ (widenBranch type e).type? = type := by
  unfold widenBranch
  split
  · rename_i hw
    exact .inr hw.1.symm
  · rename_i hw
    rcases h with h | h | ⟨ht, a, ha, hnum⟩
    · exact .inl h
    · exact .inr h
    · refine .inr ?_
      cases a with
      | integer => exact absurd ⟨ht, ha⟩ hw
      | number => rw [ha, ht]
      | _ => cases hnum

theorem widenBranch_types {operator : String} {yes no : Scalar} {type : Option ScalarType}
    (h : Typing.unify operator [yes.type?, no.type?] = .ok type) :
    ((widenBranch type yes).type? = none ∨ (widenBranch type yes).type? = type) ∧
      ((widenBranch type no).type? = none ∨ (widenBranch type no).type? = type) := by
  constructor
  · refine widenBranch_type ?_
    rcases Typing.common_ok (Typing.unify_pair h) with ⟨hl, _⟩ | ⟨_, he⟩ | ⟨_, he⟩ |
      ⟨a, _, ha, _, hnum, _, _, he⟩
    · exact .inl hl
    · exact .inr (.inl he.symm)
    · exact .inr (.inl he.symm)
    · exact .inr (.inr ⟨he, a, ha, hnum⟩)
  · refine widenBranch_type ?_
    rcases Typing.common_ok (Typing.unify_pair h) with ⟨_, he⟩ | ⟨hr, _⟩ | ⟨hlr, he⟩ |
      ⟨_, b, _, hb, _, hnum, _, he⟩
    · exact .inr (.inl he.symm)
    · exact .inl hr
    · exact .inr (.inl (hlr.symm.trans he.symm))
    · exact .inr (.inr ⟨he, b, hb, hnum⟩)

theorem typed_widenBranch {reads : String → ScalarType → Prop} {e : Scalar} (h : e.Typed reads)
    (type : Option ScalarType) : (widenBranch type e).Typed reads := by
  unfold widenBranch
  split
  · exact .apply (Operation.cast_sound _ _) (List.forall_mem_singleton.2 h)
  · exact h

theorem sound_conditional {test yes no : Scalar} {c : Compiled}
    (h : env.conditional test yes no = .ok c) (ht : test.Typed f.Provides)
    (hy : yes.Typed f.Provides) (hn : no.Typed f.Provides) : c.Sound env.context today f := by
  obtain ⟨_, type, hu, rfl⟩ := conditional_ok h
  obtain ⟨hyt, hnt⟩ := widenBranch_types hu
  exact sound_fold (.conditional ht (typed_widenBranch hy type) (typed_widenBranch hn type) hyt hnt)

/-- The lists of operand types that an operation is built for: one for scalars, and one for each
    measure that datasets share. -/
def operandTypes (operands : List Compiled) : List (List (Option ScalarType)) :=
  match plans operands with
  | [] => [(scalars operands).map Scalar.type?]
  | first :: rest =>
    (sharedMeasures first (first :: rest)).map fun m => operands.map (operandType m.name)

theorem mem_plans {operands : List Compiled} {p : Plan} :
    p ∈ plans operands ↔ Compiled.dataset p ∈ operands := by
  unfold plans
  rw [List.mem_filterMap]
  constructor
  · rintro ⟨c, hc, he⟩
    cases c with
    | scalar e => cases he
    | dataset q =>
      cases he
      exact hc
  · exact fun h => ⟨_, h, rfl⟩

theorem mem_scalars {operands : List Compiled} {e : Scalar} :
    e ∈ scalars operands ↔ Compiled.scalar e ∈ operands := by
  unfold scalars
  rw [List.mem_filterMap]
  constructor
  · rintro ⟨c, hc, he⟩
    cases c with
    | dataset p => cases he
    | scalar q =>
      cases he
      exact hc
  · exact fun h => ⟨_, h, rfl⟩

theorem length_scalars {operands : List Compiled} (h : plans operands = []) :
    (scalars operands).length = operands.length := by
  induction operands with
  | nil => rfl
  | cons c operands ih =>
    cases c with
    | dataset p => cases h
    | scalar e => exact congrArg (· + 1) (ih h)

theorem length_of_mem_operandTypes {operands : List Compiled} {types : List (Option ScalarType)}
    (h : types ∈ operandTypes operands) : types.length = operands.length := by
  unfold operandTypes at h
  split at h
  · rename_i hp
    rw [List.mem_singleton.1 h, List.length_map, length_scalars hp]
  · obtain ⟨m, _, rfl⟩ := List.mem_map.1 h
    exact List.length_map _

theorem outputs_mem {build : Builder} {operands : List Compiled} {alone : Bool}
    {measures : List Component} {outs : List MeasureOutput}
    (h : outputs build operands alone measures = .ok outs) {o : MeasureOutput} (ho : o ∈ outs) :
    ∃ m ∈ measures, build (operands.map (operandType m.name)) = .ok o.operation ∧
      o.sources = operands.map (operandSource m.name) := by
  induction measures generalizing outs with
  | nil =>
    cases h
    cases ho
  | cons m rest ih =>
    obtain ⟨op, hop, h⟩ := ok_of_bind h
    obtain ⟨others, hothers, h⟩ := ok_of_bind h
    cases eq_of_pure_ok h
    rcases List.mem_cons.1 ho with rfl | ho
    · exact ⟨m, List.mem_cons_self .., hop, rfl⟩
    · obtain ⟨m', hm, hb⟩ := ih hothers ho
      exact ⟨m', List.mem_cons_of_mem _ hm, hb⟩

theorem sameNames_of_otherIdentifiers {first : Plan} {rest : List Plan}
    (h : otherIdentifiers? first rest = none) {p : Plan} (hp : p ∈ rest) :
    first.schema.identifierNames.length = p.schema.identifierNames.length ∧
      first.schema.identifierNames ⊆ p.schema.identifierNames := by
  have hsame : sameNames first.schema.identifierNames p.schema.identifierNames = true := by
    simpa using List.find?_eq_none.1 h p hp
  obtain ⟨hlen, hall⟩ := Bool.and_eq_true_iff.1 hsame
  exact ⟨eq_of_beq hlen, fun n hn => List.contains_iff_mem.1 (List.all_eq_true.1 hall n hn)⟩

theorem identifiers_shared {first : Plan} {rest : List Plan}
    (h : otherIdentifiers? first rest = none) :
    ∀ p ∈ first :: rest, ∀ n ∈ first.schema.identifierNames, n ∈ p.schema.names := by
  refine List.forall_mem_cons.2 ⟨fun n hn => first.schema.identifierNames_subset hn, ?_⟩
  intro p hp n hn
  exact p.schema.identifierNames_subset ((sameNames_of_otherIdentifiers h hp).2 hn)

theorem identifiers_of_shared {first : Plan} {rest : List Plan}
    (h : otherIdentifiers? first rest = none) :
    ∀ p ∈ first :: rest, p.schema.identifierNames ⊆ first.schema.identifierNames := by
  refine List.forall_mem_cons.2 ⟨List.Subset.refl _, fun p hp => ?_⟩
  obtain ⟨hlen, hsub⟩ := sameNames_of_otherIdentifiers h hp
  have hnodup : first.schema.identifierNames.Nodup :=
    first.schema.nodup.sublist (List.filter_sublist.map _)
  have hle : p.schema.identifierNames.length ≤ first.schema.identifierNames.length :=
    Nat.le_of_eq hlen.symm
  exact ((hnodup.subperm hsub).perm_of_length_le hle).symm.subset

theorem measure_shared {first : Plan} {all : List Plan} {m : Component}
    (h : m ∈ sharedMeasures first all) : ∀ p ∈ all, m.name ∈ p.schema.names := by
  intro p hp
  have ha := List.all_eq_true.1 (List.mem_filter.1 h).2 p hp
  obtain ⟨c, hc, _⟩ := Option.any_eq_true .. |>.1 ha
  obtain ⟨hm, hn⟩ := Schema.get?_eq_some.1 hc
  exact Schema.mem_names.2 ⟨c, hm, hn⟩

theorem safe_operands {c : Context} {operands : List Compiled}
    (ha : ∀ a ∈ operands, a.Agrees c today) (hs : ∀ a ∈ operands, a.Sound c today []) :
    Safe (List.Forall₂ Compiled.Yields operands) (Compiled.evalAll c today operands) := by
  induction operands with
  | nil => exact .nil
  | cons a operands ih =>
    obtain ⟨ha1, ha2⟩ := List.forall_mem_cons.1 ha
    obtain ⟨hs1, hs2⟩ := List.forall_mem_cons.1 hs
    have hone : Safe (Compiled.Yields a) (a.eval c today) := by
      cases a with
      | scalar e =>
        rw [Compiled.eval]
        exact (Scalar.Typed.safe_eval hs1 (Scalar.covers_nil _)).bind fun v hv => hv
      | dataset p =>
        rw [Compiled.eval]
        exact (hs1 rfl).with_ok.bind fun d hd => ⟨ha1 d hd.1, hd.2⟩
    rw [Compiled.evalAll]
    exact hone.bind fun o ho => (ih ha2 hs2).bind fun os hos => .cons ho hos

/-- An operation that is sound for all its lists of operand types can be lifted. -/
theorem sound_lift {build : Builder} {operands : List Compiled} {c : Compiled}
    (h : env.lift build operands = .ok c)
    (hb : ∀ types ∈ operandTypes operands, ∀ op, build types = .ok op → op.Sound types)
    (ha : ∀ a ∈ operands, a.Agrees env.context today)
    (hs : ∀ a ∈ operands, a.Sound env.context today f) : c.Sound env.context today f := by
  rcases lift_ok h with ⟨hp, op, hop, rfl⟩ | ⟨first, rest, hp, h⟩
  · refine sound_fold (.apply (hb _ ?_ op hop) fun e he => hs _ (mem_scalars.1 he))
    unfold operandTypes
    rw [hp]
    exact List.mem_singleton.2 rfl
  · obtain ⟨hids, outs, s, houts, hschema, rfl⟩ := liftOver_ok h
    have hplans : ∀ p, Compiled.dataset p ∈ operands → p ∈ first :: rest := by
      intro p hm
      rw [← hp]
      exact mem_plans.2 hm
    have hready : ∀ o ∈ outs, MeasureMap.Ready operands o := by
      intro o ho
      obtain ⟨m, hm, hbuild, hsources⟩ := outputs_mem houts ho
      refine ⟨m.name, hsources, hb _ ?_ _ hbuild, fun p hpo => measure_shared hm p (hplans p hpo)⟩
      unfold operandTypes
      rw [hp]
      exact List.mem_map.2 ⟨m, hm, rfl⟩
    rintro rfl
    rw [Plan.eval]
    refine (safe_operands ha hs).with_ok.bind fun values hv => ?_
    obtain ⟨hm, d, hd, hf⟩ := Compiled.evalAll_leading hv.1 hp
    have hd : d.schema = first.schema := ha _ hm d hd
    refine MeasureMap.safe_evaluate today hv.2 hf hschema (by rw [hd]) (fun p hpo => ?_) hready
    rw [hd]
    exact identifiers_shared hids p (hplans p hpo)

theorem unaryBuilder_sound {op : UnaryOp} {types : List (Option ScalarType)} {o : Operation}
    (hl : types.length = 1) (h : unaryBuilder op types = .ok o) : o.Sound types := by
  obtain ⟨t, rfl⟩ := List.length_eq_one_iff.1 hl
  exact Operation.unary_sound (typing_ok h)

theorem binaryBuilder_sound {op : BinaryOp} {types : List (Option ScalarType)} {o : Operation}
    (hl : types.length = 2) (h : binaryBuilder op types = .ok o) : o.Sound types := by
  obtain ⟨l, r, rfl⟩ := List.length_eq_two.1 hl
  exact Operation.binary_sound (typing_ok h)

theorem castBuilder_sound {target : ScalarType} {types : List (Option ScalarType)} {o : Operation}
    (h : castBuilder target types = .ok o) : o.Sound types := by
  obtain ⟨_, _, h⟩ := ok_of_bind h
  cases eq_of_pure_ok h
  exact Operation.cast_sound target types

theorem memberBuilder_sound {set : List Value} {negated : Bool}
    {types : List (Option ScalarType)} {o : Operation} (hl : types.length = 1)
    (h : memberBuilder set negated types = .ok o) : o.Sound types := by
  obtain ⟨t, rfl⟩ := List.length_eq_one_iff.1 hl
  exact Operation.memberOf_sound (typing_ok h)

theorem sound_binary {op : BinaryOp} {l r c : Compiled} (h : env.binary op l r = .ok c)
    (ha : ∀ a ∈ [l, r], a.Agrees env.context today)
    (hs : ∀ a ∈ [l, r], a.Sound env.context today f) : c.Sound env.context today f := by
  rcases binary_ok h with ⟨dominant, a, b, _, rfl, rfl, _, rfl⟩ | h
  · refine sound_fold (.shortCircuit ?_ ?_)
    · exact hs (.scalar a) (List.mem_cons_self ..)
    · exact hs (.scalar b) (List.mem_cons_of_mem _ (List.mem_cons_self ..))
  · exact sound_lift h
      (fun types ht o ho => binaryBuilder_sound (length_of_mem_operandTypes ht) ho) ha hs

end Compile
end Tabular
