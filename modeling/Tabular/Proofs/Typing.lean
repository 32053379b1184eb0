import Tabular.Proofs.Safety
import Tabular.Proofs.Typing.Operations

set_option autoImplicit false

/-!
# Values have the type of their expression

The value of a scalar expression that compiles has the static type of the expression, or is null.
The exception is a replacement of nulls where an integer meets a number: through it an integer can
pass for a number, and nothing else can go wrong.
-/
namespace Tabular

namespace Compile

/-- What the scope has for the names of the frame has the types of the frame. -/
def Frame.Allows (f : Frame) (s : Scope) : Prop :=
  ∀ n t v, f.Provides n t → s.lookup n = some v → v.conforms t = true

theorem Frame.allows_empty (f : Frame) : f.Allows Scope.empty := by
  intro n t v _ h
  cases h

theorem Frame.allows_nil (s : Scope) : Frame.Allows [] s :=
  fun n t _ h => absurd h (Frame.not_provides_nil n t)

end Compile

open Compile (Frame)

namespace Scalar

/-- The values of the expression are near its static type. -/
def Keeps (mixed : Prop) (f : Frame) (e : Scalar) : Prop :=
  ∀ s v, f.Allows s → e.eval s = .ok v → v.Near mixed e.type?

variable {mixed : Prop} {f : Frame} {e : Scalar}

theorem keeps_literal {v : Value} {t : Option ScalarType} (h : v.Near mixed t) :
    Keeps mixed f (.literal v t) := by
  intro s w _ hw
  cases hw
  exact h

theorem keeps_read {n : String} {t : ScalarType} (h : f.Provides n t) :
    Keeps mixed f (.read n t) := by
  intro s v hs hv
  rw [eval] at hv
  cases hn : s.lookup n with
  | some w =>
    rw [hn] at hv
    have hw : w = v := Except.ok.inj hv
    exact .inl (hs n t v h (hn.trans (congrArg some hw)))
  | none =>
    rw [hn] at hv
    cases hv

theorem near_evalAll {es : List Scalar} (h : ∀ e ∈ es, Keeps mixed f e) {s : Scope}
    (hs : f.Allows s) {vs : List Value} (hv : evalAll s es = .ok vs) :
    List.Forall₂ (Value.Near mixed) vs (es.map type?) := by
  induction es generalizing vs with
  | nil =>
    cases hv
    exact .nil
  | cons e es ih =>
    obtain ⟨he, hes⟩ := List.forall_mem_cons.1 h
    rw [evalAll] at hv
    obtain ⟨v, hv1, hv⟩ := ok_of_bind hv
    obtain ⟨ws, hv2, hv⟩ := ok_of_bind hv
    cases eq_of_pure_ok hv
    exact .cons (he s v hs hv1) (ih hes hv2)

theorem keeps_apply {op : Operation} {args : List Scalar} (hop : op.Keeps mixed (args.map type?))
    (h : ∀ e ∈ args, Keeps mixed f e) : Keeps mixed f (.apply op args) := by
  intro s v hs hv
  rw [eval] at hv
  obtain ⟨vs, hvs, hv⟩ := ok_of_bind hv
  exact hop s.today vs v (near_evalAll h hs hvs) hv

theorem keeps_shortCircuit (dominant : Bool) (l r : Scalar) :
    Keeps mixed f (.shortCircuit dominant l r) := by
  intro s v _ hv
  rw [eval] at hv
  obtain ⟨a, _, hv⟩ := ok_of_bind hv
  split at hv
  · cases eq_of_pure_ok hv
    exact .inl rfl
  · obtain ⟨b, _, hv⟩ := ok_of_bind hv
    cases eq_of_pure_ok hv
    exact .inl (combine_conforms dominant a b)

theorem keeps_conditional {test yes no : Scalar} {t : Option ScalarType}
    (hyes : Keeps mixed f yes) (hno : Keeps mixed f no) (hy : yes.type? = none ∨ yes.type? = t)
    (hn : no.type? = none ∨ no.type? = t) : Keeps mixed f (.conditional test yes no t) := by
  intro s v hs hv
  rw [eval] at hv
  obtain ⟨c, _, hv⟩ := ok_of_bind hv
  split at hv
  · exact (hyes s v hs hv).weaken hy
  · exact (hno s v hs hv).weaken hn

theorem Keeps.fold (h : Keeps mixed f e) : Keeps mixed f e.fold := by
  unfold Scalar.fold known?
  split
  · rename_i v hv
    split at hv
    · split at hv
      · rename_i hw
        cases hv
        exact keeps_literal (h Scope.empty v f.allows_empty hw)
      · cases hv
    · cases hv
  · exact h

end Scalar

/-- The scalars of the context are near the types they are bound with. -/
def Context.ScalarsNear (mixed : Prop) (c : Context) : Prop :=
  ∀ n t v, c.get? n = some (.scalar t v) → v.Near mixed t

/-- The scalars of the context have the types they are bound with. -/
def Context.ScalarsFit (c : Context) : Prop :=
  ∀ n t v, c.get? n = some (.scalar t v) → v.Fits t

theorem Context.ScalarsFit.near {c : Context} (h : c.ScalarsFit) (mixed : Prop) :
    c.ScalarsNear mixed := fun n t v hn => .inl (h n t v hn)

def Compiled.Keeps (mixed : Prop) (f : Frame) : Compiled → Prop
  | .scalar e => e.Keeps mixed f
  | .dataset _ => True

namespace Compile

variable {env : Env} {f : Frame} {mixed : Prop}

theorem keeps_fold {e : Scalar} (h : e.Keeps mixed f) :
    (env.fold (.scalar e)).Keeps mixed f := by
  unfold Env.fold
  dsimp only
  split
  · exact h.fold
  · exact h

theorem eq_map_scalar {operands : List Compiled} (h : plans operands = []) :
    operands = (scalars operands).map .scalar := by
  induction operands with
  | nil => rfl
  | cons c operands ih =>
    cases c with
    | dataset p => cases h
    | scalar e => exact congrArg (Compiled.scalar e :: ·) (ih h)

theorem keeps_lift {build : Builder} {operands : List Compiled} {c : Compiled}
    (h : env.lift build operands = .ok c)
    (hb : plans operands = [] → ∀ o, build ((scalars operands).map Scalar.type?) = .ok o →
      o.Keeps mixed ((scalars operands).map Scalar.type?))
    (hs : ∀ a ∈ operands, a.Keeps mixed f) : c.Keeps mixed f := by
  rcases lift_ok h with ⟨hp, op, ho, rfl⟩ | ⟨first, rest, hp, h⟩
  · refine keeps_fold (Scalar.keeps_apply (hb hp op ho) fun e he => ?_)
    exact hs (.scalar e) (mem_scalars.1 he)
  · obtain ⟨_, _, _, _, _, rfl⟩ := liftOver_ok h
    trivial

theorem keeps_lift_one {build : Builder} {a c : Compiled} (h : env.lift build [a] = .ok c)
    (hb : ∀ t o, build [t] = .ok o → o.Keeps mixed [t]) (hs : a.Keeps mixed f) :
    c.Keeps mixed f := by
  refine keeps_lift h (fun hp o ho => ?_) (List.forall_mem_singleton.2 hs)
  cases a with
  | dataset p => cases hp
  | scalar e => exact hb e.type? o ho

theorem keeps_binary {op : BinaryOp} {l r c : Compiled} (h : env.binary op l r = .ok c)
    (hl : l.Keeps mixed f) (hr : r.Keeps mixed f) : c.Keeps mixed f := by
  rcases binary_ok h with ⟨dominant, a, b, _, rfl, rfl, _, rfl⟩ | h
  · exact keeps_fold (Scalar.keeps_shortCircuit dominant a b)
  · refine keeps_lift h (fun _ o ho => ?_) ?_
    · exact (Operation.binary_settled (typing_ok ho)).keeps
    · exact List.forall_mem_cons.2 ⟨hl, List.forall_mem_singleton.2 hr⟩

theorem keeps_widenBranch {e : Scalar} (h : e.Keeps mixed f) (type : Option ScalarType) :
    (widenBranch type e).Keeps mixed f := by
  unfold widenBranch
  split
  · exact Scalar.keeps_apply (Operation.Settled.keeps trivial) (List.forall_mem_singleton.2 h)
  · exact h

theorem keeps_conditional {test yes no : Scalar} {c : Compiled}
    (h : env.conditional test yes no = .ok c) (hy : yes.Keeps mixed f) (hn : no.Keeps mixed f) :
    c.Keeps mixed f := by
  obtain ⟨_, type, hu, rfl⟩ := conditional_ok h
  obtain ⟨hyt, hnt⟩ := widenBranch_types hu
  exact keeps_fold (Scalar.keeps_conditional (keeps_widenBranch hy type)
    (keeps_widenBranch hn type) hyt hnt)

theorem keeps_name (hc : env.context.ScalarsNear mixed) {n : String} {c : Compiled}
    (h : env.name f n = .ok c) : c.Keeps mixed f := by
  rcases name_ok h with ⟨component, type, hn, rfl⟩ | ⟨type, v, hb, rfl⟩ | ⟨d, _, rfl⟩
  · exact Scalar.keeps_read ⟨n, hn⟩
  · exact Scalar.keeps_literal (hc n type v hb)
  · trivial

/-- A replacement of nulls has no integer beside a number. -/
def Unmixed (env : Env) : Frame × Expr → Prop
  | (f, .call _ (.scalar .nvl) args) => ∀ as : List Scalar, args.length = as.length →
      (∀ e s, (e, s) ∈ args.zip as → Compiles env f e (.scalar s)) →
      ¬ (some .integer ∈ as.map Scalar.type? ∧ some .number ∈ as.map Scalar.type?)
  | _ => True

theorem mixed_of_call {p : Position} {fn : ScalarFunction} {args : List Expr}
    {as : List Compiled} (hlen : args.length = as.length)
    (hargs : ∀ e a, (e, a) ∈ args.zip as → Compiles env f e a) (hp : plans as = [])
    (hu : ¬ mixed → Unmixed env (f, .call p (.scalar fn) args)) (hf : fn = .nvl)
    (hm : some .integer ∈ (scalars as).map Scalar.type? ∧
      some .number ∈ (scalars as).map Scalar.type?) : mixed := by
  subst hf
  by_contra hn
  refine hu hn (scalars as) (hlen.trans (length_scalars hp).symm) (fun e s hz => ?_) hm
  refine hargs e (.scalar s) ?_
  rw [eq_map_scalar hp, List.zip_map_right]
  exact List.mem_map.2 ⟨(e, s), hz, rfl⟩

/-- One case for each node that can be scalar. -/
theorem Compiles.keeps {e : Expr} {c : Compiled} (h : Compiles env f e c)
    (hc : env.context.ScalarsNear mixed)
    (hu : ¬ mixed → Everywhere env (Unmixed env) (f, e)) : c.Keeps mixed f := by
  induction h with
  | literal => exact Scalar.keeps_literal (.inl (Value.fits_type? _))
  | name h => exact keeps_name hc h
  | unary he h ih =>
    refine keeps_lift_one h (fun t o ho => ?_) (ih fun hm => (hu hm).part (.first rfl))
    exact Operation.unary_keeps (typing_ok ho)
  | binary hl hr h ihl ihr =>
    have hleft := ihl fun hm => (hu hm).part (.first rfl)
    have hright := ihr fun hm => (hu hm).part (.right hl)
    exact keeps_binary h hleft hright
  | conditional ht hy hn h _ ihy ihn =>
    have hyes := ihy fun hm => (hu hm).part (.yes ht)
    have hno := ihn fun hm => (hu hm).part (.no ht hy)
    exact keeps_conditional h hyes hno
  | cast he h ih =>
    refine keeps_lift_one h (fun t o ho => ?_) (ih fun hm => (hu hm).part (.first rfl))
    obtain ⟨_, _, ho⟩ := ok_of_bind ho
    cases eq_of_pure_ok ho
    exact Operation.Settled.keeps trivial
  | call hlen hargs h ih =>
    refine keeps_lift h (fun hp o ho => ?_) (fun a ha => ?_)
    · refine Operation.operation_keeps ho fun hf hm => ?_
      exact mixed_of_call hlen hargs hp (fun hm => (hu hm).self) hf hm
    · obtain ⟨e, hz⟩ := exists_mem_zip hlen ha
      refine ih e a hz fun hm => (hu hm).part (.argument ?_)
      exact reached_of_zip hlen hargs hz
  | member he h ih =>
    refine keeps_lift_one h (fun t o ho => ?_) (ih fun hm => (hu hm).part (.first rfl))
    exact (Operation.memberOf_settled (typing_ok ho)).keeps
  | _ => trivial

/-- A value fits the type its expression has, unless through a replacement of nulls in the
    expression an integer passes for a number. -/
structure HasType (env : Env) (f : Frame) (e : Expr) (v : Value) (t : Option ScalarType) :
    Prop where
  near : v.Near True t
  fits : Everywhere env (Unmixed env) (f, e) → v.Fits t

theorem Compiles.hasType {e : Expr} {c : Scalar} (h : Compiles env f e (.scalar c))
    (hc : env.context.ScalarsFit) {s : Scope} (hs : f.Allows s) {v : Value}
    (hv : c.eval s = .ok v) : HasType env f e v c.type? := by
  constructor
  · have hkeeps := h.keeps (hc.near True) (absurd trivial)
    exact hkeeps s v hs hv
  · intro hu
    have hkeeps := h.keeps (hc.near False) fun _ => hu
    exact (hkeeps s v hs hv).fits

end Compile

namespace Session

theorem bound_type {mixed : Prop} {v : Value} {t : Option ScalarType} (h : v.Near mixed t) :
    t.or v.type? = t := by
  cases t with
  | none =>
    rw [h.eq_null]
    rfl
  | some t => rfl

theorem outcome_scalar {s : Session} {today : Date} {st : Statement} {t : Option ScalarType}
    {v : Value} (h : s.outcome today st = .ok (.scalar t v)) :
    ∃ p name e c, st = .assign p name e ∧
      Compile.Compiles ⟨s.context, s.config⟩ [] e (.scalar c) ∧
      c.eval (s.context.scope today) = .ok v ∧ t = c.type?.or v.type? := by
  cases st with
  | assign p name e =>
    obtain ⟨c, hc, h⟩ := ok_of_bind h
    have hk := Compile.compile_compiles (compileExpr_ok hc)
    split at h
    · rename_i bound hb
      cases h
      cases c with
      | dataset plan =>
        obtain ⟨d, _, hb⟩ := ok_of_bind hb
        cases eq_of_pure_ok hb
      | scalar c =>
        obtain ⟨w, hw, hb⟩ := ok_of_bind hb
        cases eq_of_pure_ok hb
        exact ⟨p, name, e, c, rfl, hk, hw, rfl⟩
    · cases h
  | defineDatapoint p name domain vars rules =>
    obtain ⟨_, _, h⟩ := defined_ok h
    cases h
  | defineHierarchy p name domain codes rules =>
    obtain ⟨_, _, h⟩ := defined_ok h
    cases h

theorem execute_ok {s : Session} {today : Date} {st : Statement} {b : Binding}
    (h : (s.execute today st).2 = .ok b) : s.outcome today st = .ok b := by
  unfold execute at h
  split at h
  · rename_i hb
    cases h
    exact hb
  · cases h

/-- In a session whose scalars have their types, an expression that compiles has values of its
    static type, in every frame and every scope that the frame allows; and the scalar that its
    assignment binds has the type it is bound with. In both cases it can only be that an integer
    passes for a number, and not without a replacement of nulls where the two meet. -/
theorem hasType_of_compile {s : Session} (hc : s.context.ScalarsFit) (e : Expr) :
    (∀ depth f c scope v, Compile.compileWithin ⟨s.context, s.config⟩ depth f e = .ok (.scalar c) →
      f.Allows scope → c.eval scope = .ok v →
        Compile.HasType ⟨s.context, s.config⟩ f e v c.type?) ∧
    ∀ today p name t v, (s.execute today (.assign p name e)).2 = .ok (.scalar t v) →
      Compile.HasType ⟨s.context, s.config⟩ [] e v t := by
  constructor
  · intro depth f c scope v h hs hv
    exact (Compile.compileWithin_compiles h).hasType hc hs hv
  · intro today p name t v h
    obtain ⟨_, _, _, c, hst, hk, hv, rfl⟩ := outcome_scalar (execute_ok h)
    cases hst
    have htype := hk.hasType hc (Compile.Frame.allows_nil _) hv
    rw [bound_type htype.near]
    exact htype

def nextStep : Expr := .binary {} (.arithmetic .add) (.name {} "x") (.literal {} (.integer 1))

def countSession : Session := ⟨{}, .memory, ⟨[("x", .scalar (some .integer) (.integer 4))]⟩⟩

theorem hasType_of_compile_nextStep :
    countSession.context.ScalarsFit ∧
      (countSession.execute .epoch (.assign {} "y" nextStep)).2 =
        .ok (.scalar (some .integer) (.integer 5)) ∧
      Compile.HasType ⟨countSession.context, countSession.config⟩ [] nextStep (.integer 5)
        (some .integer) := by
  have hc : countSession.context.ScalarsFit := by
    intro n t v hn
    cases Context.eq_of_get?_singleton hn
    rfl
  exact ⟨hc, rfl, (hasType_of_compile hc nextStep).2 .epoch {} "y" _ _ rfl⟩

def mixedChoice : Expr :=
  .call {} (.scalar .nvl) [.literal {} (.integer 1), .literal {} (.number 2.5)]

/-- The integer is bound as a number. -/
theorem mixedChoice_bound :
    (execute ⟨{}, .memory, .empty⟩ .epoch (.assign {} "R" mixedChoice)).2 =
        .ok (.scalar (some .number) (.integer 1)) ∧
      ¬ (Value.integer 1).Fits (some .number) := by
  refine ⟨rfl, ?_⟩
  intro h
  cases h

def Unmixed (s : Session) : Statement → Prop
  | .assign _ _ e => Compile.Everywhere ⟨s.context, s.config⟩
      (Compile.Unmixed ⟨s.context, s.config⟩) ([], e)
  | _ => True

theorem execute_scalarsNear {mixed : Prop} {s : Session} (hc : s.context.ScalarsNear mixed)
    (today : Date) {st : Statement} (hu : ¬ mixed → s.Unmixed st) :
    (s.execute today st).1.context.ScalarsNear mixed := by
  unfold execute
  split
  · rename_i b hb
    intro n t v hn
    by_cases he : n = st.target
    · subst he
      rw [bind, Context.get?_set_self] at hn
      cases Option.some.inj hn
      obtain ⟨_, _, e, c, rfl, hk, hv, rfl⟩ := outcome_scalar hb
      have hnear := hk.keeps hc hu _ v (Compile.Frame.allows_nil _) hv
      rw [bound_type hnear]
      exact hnear
    · rw [bind, Context.get?_set_of_ne _ b he] at hn
      exact hc n t v hn
  · exact hc

/-- Whatever is executed, a bound scalar has its type or is an integer bound as a number. -/
theorem scalarsNear_after (s : Session) (hc : s.context.ScalarsNear True)
    (steps : List (Date × Statement)) : (s.after steps).context.ScalarsNear True := by
  induction steps generalizing s with
  | nil => exact hc
  | cons st steps ih => exact ih _ (execute_scalarsNear hc st.1 (absurd trivial))

end Session
end Tabular
