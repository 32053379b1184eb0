import Tabular.Proofs.Compile.Bound
import Tabular.Proofs.Compile.Mentions
import Tabular.Proofs.Folding.Alike
import Tabular.Proofs.Locality

set_option autoImplicit false

namespace Tabular.Compile

inductive Slot where
  | unary (op : UnaryOp)
  | left (op : BinaryOp) (right : Expr)
  | right (op : BinaryOp) (left : Expr)
  | cast (target : ScalarType)
  | member (set : List Value) (negated : Bool)
  | call (function : Function) (before after : List Expr)

namespace Slot

def fill (p : Position) (e : Expr) : Slot → Expr
  | .unary op => .unary p op e
  | .left op r => .binary p op e r
  | .right op l => .binary p op l e
  | .cast target => .cast p e target
  | .member set negated => .member p e set negated
  | .call f before after => .call p f (before ++ e :: after)

def operands : Slot → List (Option Expr)
  | .unary _ => [none]
  | .left _ r => [none, some r]
  | .right _ l => [some l, none]
  | .cast _ => [none]
  | .member _ _ => [none]
  | .call _ before after => before.map some ++ none :: after.map some

/-- How the operation follows from the operand types, some operands being known. -/
def builder (reader : PatternReader) (constants : List (Option Value)) : Slot → Builder
  | .unary op => unaryBuilder op
  | .left op _ => binaryBuilder op
  | .right op _ => binaryBuilder op
  | .cast target => castBuilder target
  | .member set negated => memberBuilder set negated
  | .call (.scalar f) _ _ => fun types => f.operation reader types constants
  | .call (.timeSeries f) _ _ => fun _ => .error (.notImplemented f.name)

def build (env : Env) : Slot → List Compiled → Except CompileFault Compiled
  | .left op _, [l, r] => env.binary op l r
  | .right op _, [l, r] => env.binary op l r
  | .call (.timeSeries f) _ _, _ => .error (.notImplemented f.name)
  | slot, operands => env.lift (slot.builder env.config.patterns (operands.map known?)) operands

theorem open_once (slot : Slot) : (slot.operands.filter Option.isNone).length = 1 := by
  cases slot with
  | call f before after =>
    have hsome (es : List Expr) : (es.map some).filter Option.isNone = [] := by
      rw [List.filter_map]
      simp
    rw [operands, List.filter_append, hsome, List.filter_cons_of_pos rfl, hsome]
    rfl
  | _ => rfl

variable {env : Env} {f : Frame} {slot : Slot} {e : Expr} {p : Position} {c : Compiled}

theorem compiles_fill :
    Compiles env f (slot.fill p e) c ↔
      ∃ as, List.Forall₂ (Compiles env f) (slot.operands.map (·.getD e)) as ∧
        slot.build env as = .ok c := by
  have hcall (before after : List Expr) :
      (before.map some ++ none :: after.map some).map (·.getD e) = before ++ e :: after := by
    simp [Function.comp_def]
  constructor
  · intro h
    cases slot with
    | unary op =>
      cases h with
      | unary he h => exact ⟨[_], .cons he .nil, h⟩
    | left op r =>
      cases h with
      | binary hl hr h => exact ⟨[_, _], .cons hl (.cons hr .nil), h⟩
    | right op l =>
      cases h with
      | binary hl hr h => exact ⟨[_, _], .cons hl (.cons hr .nil), h⟩
    | cast target =>
      cases h with
      | cast he h => exact ⟨[_], .cons he .nil, h⟩
    | member set negated =>
      cases h with
      | member he h => exact ⟨[_], .cons he .nil, h⟩
    | call fn before after =>
      cases h with
      | call hlen hargs h =>
        refine ⟨_, ?_, h⟩
        rw [operands, hcall]
        exact List.forall₂_iff_zip.2 ⟨hlen, fun hz => hargs _ _ hz⟩
  · rintro ⟨as, has, h⟩
    cases slot with
    | unary op =>
      cases has with
      | cons he hnil =>
        cases hnil
        exact .unary he h
    | left op r =>
      cases has with
      | cons hl hrest =>
        cases hrest with
        | cons hr hnil =>
          cases hnil
          exact .binary hl hr h
    | right op l =>
      cases has with
      | cons hl hrest =>
        cases hrest with
        | cons hr hnil =>
          cases hnil
          exact .binary hl hr h
    | cast target =>
      cases has with
      | cons he hnil =>
        cases hnil
        exact .cast he h
    | member set negated =>
      cases has with
      | cons he hnil =>
        cases hnil
        exact .member he h
    | call fn before after =>
      rw [operands, hcall] at has
      cases fn with
      | scalar fn =>
        exact .call has.length_eq (fun _ _ hz => List.forall₂_zip has hz) h
      | timeSeries fn => cases h

theorem liftOver_of_build {as : List Compiled} {first : Plan} {rest : List Plan}
    (h : slot.build env as = .ok c) (hp : plans as = first :: rest) :
    liftOver (slot.builder env.config.patterns (as.map known?)) as first rest = .ok c := by
  have hlift {build : Builder} {as : List Compiled} (h : env.lift build as = .ok c)
      (hp : plans as = first :: rest) : liftOver build as first rest = .ok c := by
    rcases lift_ok h with ⟨hnil, _⟩ | ⟨_, _, hp', h⟩
    · rw [hp] at hnil
      cases hnil
    · rw [hp] at hp'
      cases hp'
      exact h
  have hbinary {op : BinaryOp} {l r : Compiled} (h : env.binary op l r = .ok c)
      (hp : plans [l, r] = first :: rest) :
      liftOver (binaryBuilder op) [l, r] first rest = .ok c := by
    rcases binary_ok h with ⟨_, _, _, _, rfl, rfl, _⟩ | h
    · cases hp
    · exact hlift h hp
  unfold build at h
  split at h
  · exact hbinary h hp
  · exact hbinary h hp
  · cases h
  · exact hlift h hp

theorem plans_scalars (as : List Scalar) : plans (as.map Compiled.scalar) = [] := by
  induction as with
  | nil => rfl
  | cons a as ih => exact ih

theorem scalars_scalars (as : List Scalar) : scalars (as.map Compiled.scalar) = as := by
  induction as with
  | nil => rfl
  | cons a as ih => exact congrArg (a :: ·) ih

theorem lift_scalars {builder : Builder} {as : List Scalar} {op : Operation}
    (h : builder (as.map Scalar.type?) = .ok op) :
    env.lift builder (as.map Compiled.scalar) = .ok (env.fold (.scalar (.apply op as))) := by
  unfold Env.lift Compile.lift
  rw [plans_scalars, scalars_scalars]
  dsimp only
  rw [h]
  rfl

theorem fold_eval (env : Env) (e : Scalar) :
    ∃ s, env.fold (.scalar e) = .scalar s ∧ ∀ scope, s.eval scope = e.eval scope := by
  refine ⟨if env.config.foldConstants then e.fold else e, rfl, fun scope => ?_⟩
  split
  · exact (Scalar.alike_fold e).eval scope
  · rfl

theorem evalLogic_of_dominant {op : Connective} {dominant : Bool}
    (h : dominant? (.logic op) = some dominant) (a b : Value) :
    Operation.evalLogic op a b =
      if a.boolean? = some dominant then .boolean dominant else Scalar.combine dominant a b := by
  cases op with
  | xor => cases h
  | and | or =>
    cases h
    unfold Operation.evalLogic Scalar.combine
    rcases a.boolean? with _ | _ | _ <;> rcases b.boolean? with _ | _ | _ <;> rfl

/-- A connective that leaves out its right operand has the value that the operation gives. -/
theorem shortCircuit_eval {op : BinaryOp} {dominant : Bool} {o : Operation} {l r : Scalar}
    (hd : dominant? op = some dominant) (ho : Operation.binary op l.type? r.type? = .ok o)
    {scope : Scope} {v : Value} (h : (Scalar.apply o [l, r]).eval scope = .ok v) :
    (Scalar.shortCircuit dominant l r).eval scope = .ok v := by
  cases op with
  | logic con =>
    obtain ⟨_, _, ho⟩ := ok_of_bind ho
    obtain ⟨_, _, ho⟩ := ok_of_bind ho
    cases eq_of_pure_ok ho
    rw [Scalar.eval, Scalar.evalAll, Scalar.evalAll, Scalar.evalAll] at h
    obtain ⟨vs, hvs, h⟩ := ok_of_bind h
    obtain ⟨a, ha, hvs⟩ := ok_of_bind hvs
    obtain ⟨bs, hbs, hvs⟩ := ok_of_bind hvs
    obtain ⟨b, hb, hbs⟩ := ok_of_bind hbs
    cases eq_of_pure_ok hbs
    cases eq_of_pure_ok hvs
    have hv : Operation.evalLogic con a b = v := Except.ok.inj h
    rw [evalLogic_of_dominant hd] at hv
    rw [Scalar.eval, ha, ← hv]
    change (if a.boolean? = some dominant then _ else _) = _
    split
    · rfl
    · rw [hb]
      rfl
  | _ => cases hd

/-- Over scalars the node is a scalar expression. Where the operation succeeds on the values of
    the operands, the expression has its result. -/
theorem exists_scalar (env : Env) {as : List Scalar} {op : Operation}
    (hlen : as.length = slot.operands.length)
    (hop : slot.builder env.config.patterns ((as.map Compiled.scalar).map known?)
      (as.map Scalar.type?) = .ok op) :
    ∃ s, slot.build env (as.map Compiled.scalar) = .ok (.scalar s) ∧
      ∀ scope v, (Scalar.apply op as).eval scope = .ok v → s.eval scope = .ok v := by
  have hlift {builder : Builder} {as : List Scalar}
      (hop : builder (as.map Scalar.type?) = .ok op) :
      ∃ s, env.lift builder (as.map Compiled.scalar) = .ok (.scalar s) ∧
        ∀ scope v, (Scalar.apply op as).eval scope = .ok v → s.eval scope = .ok v := by
    obtain ⟨s, hs, he⟩ := fold_eval env (.apply op as)
    refine ⟨s, by rw [lift_scalars hop, hs], fun scope v hv => ?_⟩
    rw [he, hv]
  have hbinary {bop : BinaryOp} {l r : Scalar}
      (hop : binaryBuilder bop [l.type?, r.type?] = .ok op) :
      ∃ s, env.binary bop (.scalar l) (.scalar r) = .ok (.scalar s) ∧
        ∀ scope v, (Scalar.apply op [l, r]).eval scope = .ok v → s.eval scope = .ok v := by
    cases hd : dominant? bop with
    | none =>
      unfold Env.binary
      rw [hd]
      exact @hlift _ [l, r] hop
    | some dominant =>
      obtain ⟨s, hs, he⟩ := fold_eval env (.shortCircuit dominant l r)
      have htype : typing (Operation.binary bop l.type? r.type?) = .ok op := hop
      refine ⟨s, ?_, fun scope v hv => ?_⟩
      · unfold Env.binary
        rw [hd]
        dsimp only
        rw [htype, ← hs]
        rfl
      · rw [he]
        exact shortCircuit_eval hd (typing_ok htype) hv
  cases slot with
  | left bop r =>
    obtain ⟨x, y, rfl⟩ := List.length_eq_two.1 hlen
    exact hbinary hop
  | right bop l =>
    obtain ⟨x, y, rfl⟩ := List.length_eq_two.1 hlen
    exact hbinary hop
  | call fn before after =>
    cases fn with
    | scalar fn => exact hlift hop
    | timeSeries fn => cases hop
  | _ => exact hlift hop

end Slot

variable {env : Env}

theorem scalar_of_lift {build : Builder} {as : List Compiled} {s : Scalar}
    (h : env.lift build as = .ok (.scalar s)) : ∀ a ∈ as, ∃ t, a = .scalar t := by
  intro a ha
  rcases lift_ok h with ⟨hp, _⟩ | ⟨_, _, _, h⟩
  · cases a with
    | scalar t => exact ⟨t, rfl⟩
    | dataset q =>
      have hq := mem_plans.2 ha
      rw [hp] at hq
      cases hq
  · obtain ⟨_, _, _, _, _, h⟩ := liftOver_ok h
    cases h

theorem scalar_of_binary {op : BinaryOp} {a b : Compiled} {s : Scalar}
    (h : env.binary op a b = .ok (.scalar s)) : (∃ t, a = .scalar t) ∧ ∃ t, b = .scalar t := by
  rcases binary_ok h with ⟨_, t, t', _, rfl, rfl, _⟩ | h
  · exact ⟨⟨t, rfl⟩, t', rfl⟩
  · exact ⟨scalar_of_lift h a (List.mem_cons_self ..),
      scalar_of_lift h b (List.mem_cons_of_mem _ (List.mem_cons_self ..))⟩

/-- A scalar expression means the same in every context and frame where the names that it mentions
    do. -/
theorem Compiles.scalar_of_names {b b' : Context} {config : Config} {f f' : Frame} {e : Expr}
    {c : Compiled} (h : Compiles ⟨b, config⟩ f e c) {s : Scalar} (hs : c = .scalar s)
    (hf : ∀ n, .identifier n ∈ e.mentions →
      Env.name ⟨b, config⟩ f n = Env.name ⟨b', config⟩ f' n) : Compiles ⟨b', config⟩ f' e c := by
  induction h generalizing s with
  | literal => exact .literal
  | name h => exact .name ((hf _ (List.mem_singleton.2 rfl)).symm.trans h)
  | unary _ h ih =>
    subst hs
    obtain ⟨t, ht⟩ := scalar_of_lift h _ (List.mem_singleton.2 rfl)
    exact .unary (ih ht hf) h
  | binary _ _ h ihl ihr =>
    subst hs
    obtain ⟨⟨t, ht⟩, u, hu⟩ := scalar_of_binary h
    rw [Expr.mentions] at hf
    exact .binary (ihl ht fun n hn => hf n (List.mem_append_left _ hn))
      (ihr hu fun n hn => hf n (List.mem_append_right _ hn)) h
  | conditional _ _ _ h iht ihy ihn =>
    simp only [Expr.mentions, List.mem_append] at hf
    exact .conditional (iht rfl fun n hn => hf n (.inl (.inl hn)))
      (ihy rfl fun n hn => hf n (.inl (.inr hn))) (ihn rfl fun n hn => hf n (.inr hn)) h
  | cast _ h ih =>
    subst hs
    obtain ⟨t, ht⟩ := scalar_of_lift h _ (List.mem_singleton.2 rfl)
    exact .cast (ih ht hf) h
  | call hlen _ h ih =>
    subst hs
    refine .call hlen (fun e a hz => ?_) h
    obtain ⟨t, ht⟩ := scalar_of_lift h a (List.of_mem_zip hz).2
    refine ih e a hz ht fun n hn => hf n ?_
    exact mem_mentionsAll.2 ⟨e, (List.of_mem_zip hz).1, hn⟩
  | member _ h ih =>
    subst hs
    obtain ⟨t, ht⟩ := scalar_of_lift h _ (List.mem_singleton.2 rfl)
    exact .member (ih ht hf) h
  | _ => cases hs

theorem Compiles.scalar_of_frame {f f' : Frame} {e : Expr} {c : Compiled} (h : Compiles env f e c)
    {s : Scalar} (hs : c = .scalar s)
    (hf : ∀ n, .identifier n ∈ e.mentions → f.get? n = f'.get? n) : Compiles env f' e c :=
  h.scalar_of_names hs fun n hn => by rw [Env.name, Env.name, hf n hn]

end Tabular.Compile
