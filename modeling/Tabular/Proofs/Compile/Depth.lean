import Tabular.Proofs.Compile.Soundness

set_option autoImplicit false

/-!
# Depth of compilation

`compileWithin` gives up when rulesets apply each other too deeply. More depth changes nothing but
that: a result found within some depth is the result within every greater one. So there is one
outcome that does not depend on the depth, `unbounded`, and it satisfies the equations of `expr`.
-/
namespace Tabular.Compile

variable {env : Env}

theorem calcItems_window (rules : RuleCompiler) (source : Plan) (n : Nat) (name : String)
    (role : Option Role) (p q : Position) (fn : WindowFunction) (component : String)
    (extent : Extent) (rest : List CalcItem) :
    calcItems env rules source n (.mk name role (.window p fn (.name q component) extent) :: rest) =
      (do
        located p (checkItem source.schema name)
        let item ← located p (windowItem source name role n fn component extent)
        let items ← calcItems env rules source (n + 1) rest
        return item :: items) := by
  rw [calcItems]
  rfl

theorem calcItems_operand (rules : RuleCompiler) (source : Plan) (n : Nat) (name : String)
    (role : Option Role) (p : Position) (fn : WindowFunction) {operand : Expr} (extent : Extent)
    (rest : List CalcItem) (h : ∀ q component, operand ≠ .name q component) :
    calcItems env rules source n (.mk name role (.window p fn operand extent) :: rest) =
      (do
        located p (checkItem source.schema name)
        fail operand.position (.invalidArgument fn.name .operandNotComponent)) := by
  rw [calcItems.eq_def]
  cases operand with
  | name q component => exact absurd rfl (h q component)
  | _ => rfl

theorem calcItems_plain (rules : RuleCompiler) (source : Plan) (n : Nat) (name : String)
    (role : Option Role) {e : Expr} (rest : List CalcItem)
    (h : ∀ p fn operand extent, e ≠ .window p fn operand extent) :
    calcItems env rules source n (.mk name role e :: rest) =
      (do
        located e.position (checkItem source.schema name)
        let s ← expr env rules (Frame.ofSchema source.schema) e >>= asScalar e.position
        let items ← calcItems env rules source n rest
        return ⟨⟨name, itemRole source.schema name role, s⟩, none⟩ :: items) := by
  rw [calcItems.eq_def]
  cases e with
  | window p fn operand extent => exact absurd rfl (h p fn operand extent)
  | _ => rfl

theorem item_cases (e : Expr) :
    (∃ p fn q component extent, e = .window p fn (.name q component) extent) ∨
    (∃ p fn operand extent, e = .window p fn operand extent ∧
      ∀ q component, operand ≠ .name q component) ∨
    ∀ p fn operand extent, e ≠ .window p fn operand extent := by
  cases e with
  | window p fn operand extent =>
    cases operand with
    | name q component => exact .inl ⟨p, fn, q, component, extent, rfl⟩
    | _ =>
      refine .inr (.inl ⟨p, fn, _, extent, rfl, ?_⟩)
      intro q component h
      cases h
  | _ =>
    refine .inr (.inr ?_)
    intro p fn operand extent h
    cases h

/-- A property of families of results that holds of constant ones and is kept by sequencing. -/
structure Sequential {ι : Type} (R : (α : Type) → (ι → Result α) → Prop) : Prop where
  const : ∀ {α : Type} (x : Result α), R α fun _ => x
  bind : ∀ {α β : Type} {x : ι → Result α} {next : ι → α → Result β}, R α x →
    (∀ a, R β fun i => next i a) → R β fun i => x i >>= next i

section
variable {ι : Type} {R : (α : Type) → (ι → Result α) → Prop} (rules : ι → RuleCompiler)

/-- The next step may be one that is the same throughout the family. -/
theorem Sequential.next (hR : Sequential R) {α β : Type} {x : ι → Result α} (h : R α x)
    {step : α → Result β} : R β fun i => x i >>= step :=
  hR.bind h fun _ => hR.const _

theorem Sequential.booleanRule (hR : Sequential R) {compile : ι → Expr → Result Compiled}
    (h : ∀ e, R _ fun i => compile i e) (id : String) (e : Expr) :
    R _ fun i => Compile.booleanRule (compile i) id e :=
  hR.next (h e)

theorem Sequential.rowRules (hR : Sequential R) {compile : ι → Expr → Result Compiled}
    (h : ∀ e, R _ fun i => compile i e) (rs : List DatapointRule) :
    R _ fun i => Compile.rowRules (compile i) rs := by
  induction rs with
  | nil => exact hR.const _
  | cons r rest ih =>
    refine hR.bind ?_ fun a => hR.bind (hR.booleanRule h _ _) fun c => hR.next ih
    cases r.antecedent with
    | none => exact hR.const _
    | some e => exact hR.next (hR.booleanRule h _ _)

/-- It also holds of the compilers of rules. -/
structure SequentialOver (R : (α : Type) → (ι → Result α) → Prop) (rules : ι → RuleCompiler) :
    Prop extends Sequential R where
  rules : ∀ f e, R _ fun i => rules i f e

mutual

/-- What holds of the compilers of rules holds of compilation with them. -/
theorem expr_sequential (hR : SequentialOver R rules) (f : Frame) :
    ∀ e : Expr, R _ fun i => expr env (rules i) f e
  | .literal p v => hR.const _
  | .name p n => hR.const _
  | .unary p op e => by
    simp only [expr]
    exact hR.next (expr_sequential hR f e)
  | .binary p op l r => by
    simp only [expr]
    exact hR.bind (expr_sequential hR f l) fun _ => hR.next (expr_sequential hR f r)
  | .conditional p t y n => by
    simp only [expr]
    refine hR.bind (hR.next (expr_sequential hR f t)) fun _ => ?_
    refine hR.bind (hR.next (expr_sequential hR f y)) fun _ => ?_
    exact hR.next (hR.next (expr_sequential hR f n))
  | .cast p e target => by
    simp only [expr]
    exact hR.next (expr_sequential hR f e)
  | .call p (.timeSeries fn) args => hR.const _
  | .call p (.scalar fn) args => by
    simp only [expr]
    exact hR.next (exprs_sequential hR f args)
  | .member p e set negated => by
    simp only [expr]
    exact hR.next (expr_sequential hR f e)
  | .select p e component => by
    simp only [expr]
    exact hR.next (hR.next (expr_sequential hR f e))
  | .filter p e condition => by
    simp only [expr]
    refine hR.bind (hR.next (expr_sequential hR f e)) fun source => ?_
    exact hR.next (hR.next (expr_sequential hR _ condition))
  | .keep p e names => by
    simp only [expr]
    exact hR.next (hR.next (expr_sequential hR f e))
  | .drop p e names => by
    simp only [expr]
    exact hR.next (hR.next (expr_sequential hR f e))
  | .rename p e pairs => by
    simp only [expr]
    exact hR.next (hR.next (expr_sequential hR f e))
  | .calculate p e items => by
    simp only [expr]
    refine hR.bind (hR.next (expr_sequential hR f e)) fun source => ?_
    exact hR.next (calcItems_sequential hR source 0 items)
  | .combine p op es => by
    simp only [expr]
    split
    · exact hR.next (planExprs_sequential hR f es)
    · exact hR.const _
  | .window p fn e extent => by
    simp only [expr]
    refine hR.bind (expr_sequential hR f e) fun c => ?_
    cases c with
    | scalar s => exact hR.const _
    | dataset source => exact hR.const _
  | .checkDatapoint p e ruleset components mode => by
    simp only [expr]
    refine hR.bind (hR.next (expr_sequential hR f e)) fun source => ?_
    refine hR.bind (hR.const _) fun rs => hR.bind (hR.const _) fun inner => ?_
    exact hR.next (hR.rowRules (hR.rules inner) _)
  | .check p e code level imbalance invalid => by
    simp only [expr]
    refine hR.bind (hR.next (expr_sequential hR f e)) fun condition => ?_
    refine hR.bind (hR.const _) fun _ => ?_
    refine hR.bind (planExpr?_sequential hR f imbalance) fun other => ?_
    refine hR.bind (hR.const _) fun _ => ?_
    refine hR.bind (optionalScalar_sequential hR f _ code) fun _ => ?_
    exact hR.next (optionalScalar_sequential hR f _ level)
  | .checkHierarchy p e ruleset component validation input output => by
    simp only [expr]
    exact hR.next (hR.next (expr_sequential hR f e))

theorem exprs_sequential (hR : SequentialOver R rules) (f : Frame) :
    ∀ es : List Expr, R _ fun i => exprs env (rules i) f es
  | [] => hR.const _
  | e :: rest => by
    simp only [exprs]
    exact hR.bind (expr_sequential hR f e) fun _ => hR.next (exprs_sequential hR f rest)

theorem planExprs_sequential (hR : SequentialOver R rules) (f : Frame) :
    ∀ es : List Expr, R _ fun i => planExprs env (rules i) f es
  | [] => hR.const _
  | e :: rest => by
    simp only [planExprs]
    refine hR.bind (hR.next (expr_sequential hR f e)) fun _ => ?_
    exact hR.next (planExprs_sequential hR f rest)

theorem planExpr?_sequential (hR : SequentialOver R rules) (f : Frame) :
    ∀ e : Option Expr, R _ fun i => planExpr? env (rules i) f e
  | none => hR.const _
  | some e => by
    simp only [planExpr?]
    exact hR.next (hR.next (expr_sequential hR f e))

theorem optionalScalar_sequential (hR : SequentialOver R rules) (f : Frame) (type : ScalarType) :
    ∀ e : Option Expr, R _ fun i => optionalScalar env (rules i) f type e
  | none => hR.const _
  | some e => by
    simp only [optionalScalar]
    exact hR.next (hR.next (expr_sequential hR f e))

theorem calcItems_sequential (hR : SequentialOver R rules) (source : Plan) :
    ∀ (n : Nat) (items : List CalcItem), R _ fun i => calcItems env (rules i) source n items
  | n, [] => hR.const _
  | n, .mk name role e :: rest => by
    obtain ⟨p, fn, q, component, extent, rfl⟩ | ⟨p, fn, operand, extent, rfl, ho⟩ | hp :=
      item_cases e
    · simp only [calcItems_window]
      refine hR.bind (hR.const _) fun _ => hR.bind (hR.const _) fun _ => ?_
      exact hR.next (calcItems_sequential hR source (n + 1) rest)
    · simp only [calcItems_operand _ _ _ _ _ _ _ _ _ ho]
      exact hR.const _
    · simp only [calcItems_plain _ _ _ _ _ _ hp]
      refine hR.bind (hR.const _) fun _ => ?_
      refine hR.bind (hR.next (expr_sequential hR _ e)) fun _ => ?_
      exact hR.next (calcItems_sequential hR source n rest)

end
end

theorem sequential_refines :
    Sequential fun _ (x : Bool → _) => x false = .error .unfinished ∨ x false = x true where
  const _ := .inr rfl
  bind {_ _ x next} hx hn := by
    dsimp only at hn ⊢
    rcases hx with hx | hx
    · left
      rw [hx]
      rfl
    · rw [hx]
      cases x true with
      | ok a => exact hn a
      | error e => exact .inr rfl

theorem compileWithin_succ (d : Nat) (f : Frame) (e : Expr) :
    compileWithin env d f e = .error .unfinished ∨
      compileWithin env d f e = compileWithin env (d + 1) f e := by
  induction d generalizing f e with
  | zero => exact .inl rfl
  | succ d ih =>
    -- Both depths are members of one family of compilers of rules, false being the smaller one.
    exact expr_sequential (fun i => cond i (compileWithin env (d + 1)) (compileWithin env d))
      ⟨sequential_refines, ih⟩ f e

/-- A result within some depth is the result within every greater depth. -/
theorem compileWithin_of_le {d d' : Nat} (hd : d ≤ d') {f : Frame} {e : Expr}
    (h : compileWithin env d f e ≠ .error .unfinished) :
    compileWithin env d' f e = compileWithin env d f e := by
  obtain ⟨k, rfl⟩ := Nat.exists_eq_add_of_le hd
  clear hd
  induction k with
  | zero => rfl
  | succ k ih =>
    rcases compileWithin_succ (d + k) f e with hn | hn
    · exact absurd (ih.symm.trans hn) h
    · rw [← ih, hn, Nat.add_assoc]

open Classical in
/-- The outcome of compilation with no limit on the depth; `unfinished` if no depth suffices. -/
noncomputable def unbounded (env : Env) : RuleCompiler := fun f e =>
  if h : ∃ d, compileWithin env d f e ≠ .error .unfinished then compileWithin env h.choose f e
  else .error .unfinished

theorem unbounded_of_ne {d : Nat} {f : Frame} {e : Expr}
    (h : compileWithin env d f e ≠ .error .unfinished) :
    unbounded env f e = compileWithin env d f e := by
  have hx : ∃ d, compileWithin env d f e ≠ .error .unfinished := ⟨d, h⟩
  rw [unbounded, dif_pos hx]
  rcases Nat.le_total d hx.choose with hd | hd
  · exact compileWithin_of_le hd h
  · exact (compileWithin_of_le hd hx.choose_spec).symm

theorem unbounded_eq_unfinished {f : Frame} {e : Expr} :
    unbounded env f e = .error .unfinished ↔ ∀ d, compileWithin env d f e = .error .unfinished := by
  constructor
  · intro h d
    by_contra hd
    exact hd ((unbounded_of_ne hd).symm.trans h)
  · intro h
    rw [unbounded, dif_neg]
    rintro ⟨d, hd⟩
    exact hd (h d)

theorem unbounded_congr {env' : Env} {f : Frame} {e : Expr}
    (h : ∀ d, compileWithin env d f e = compileWithin env' d f e) :
    unbounded env f e = unbounded env' f e := by
  by_cases hd : ∀ d, compileWithin env d f e = .error .unfinished
  · rw [unbounded_eq_unfinished.2 hd, unbounded_eq_unfinished.2 fun d => (h d).symm.trans (hd d)]
  · obtain ⟨d, hd⟩ := not_forall.1 hd
    rw [unbounded_of_ne hd, h d, unbounded_of_ne (h d ▸ hd)]

/-- Within a depth compilation is unfinished or has its outcome. -/
theorem compileWithin_refines (d : Nat) (f : Frame) (e : Expr) :
    compileWithin env d f e = .error .unfinished ∨
      compileWithin env d f e = unbounded env f e := by
  by_cases h : compileWithin env d f e = .error .unfinished
  · exact .inl h
  · exact .inr (unbounded_of_ne h).symm

/-- From some depth on the family has the outcome that stands under `none`. -/
def Settles (α : Type) (x : Option Nat → Result α) : Prop := ∃ n, ∀ d, n ≤ d → x (some d) = x none

theorem sequential_settles : Sequential Settles where
  const _ := ⟨0, fun _ _ => rfl⟩
  bind {_ _ x next} hx hn := by
    obtain ⟨n, hx⟩ := hx
    cases ha : x none with
    | error e =>
      refine ⟨n, fun d hd => ?_⟩
      dsimp only
      rw [hx d hd, ha]
      rfl
    | ok a =>
      obtain ⟨m, hm⟩ := hn a
      refine ⟨max n m, fun d hd => ?_⟩
      dsimp only
      rw [hx d (Nat.le_trans (Nat.le_max_left n m) hd), ha]
      exact hm d (Nat.le_trans (Nat.le_max_right n m) hd)

theorem compileWithin_settles (f : Frame) (e : Expr) :
    Settles _ fun d => (d.elim (unbounded env) (compileWithin env)) f e := by
  by_cases h : ∀ d, compileWithin env d f e = .error .unfinished
  · exact ⟨0, fun d _ => (h d).trans (unbounded_eq_unfinished.2 h).symm⟩
  · obtain ⟨n, hn⟩ := not_forall.1 h
    refine ⟨n, fun d hd => ?_⟩
    exact (compileWithin_of_le hd hn).trans (unbounded_of_ne hn).symm

/-- The outcome is that of compiling the parts, and the rules, without a limit. -/
theorem unbounded_eq (f : Frame) (e : Expr) :
    unbounded env f e = expr env (unbounded env) f e := by
  have hs : ∀ f e, Settles _ fun d => (d.elim (unbounded env) (compileWithin env)) f e :=
    compileWithin_settles
  obtain ⟨n, hn⟩ := hs f e
  obtain ⟨m, hm⟩ : Settles _ fun d => expr env (d.elim (unbounded env) (compileWithin env)) f e :=
    expr_sequential _ ⟨sequential_settles, hs⟩ f e
  have h1 := hn (max n m + 1) (by omega)
  have h2 := hm (max n m) (by omega)
  exact h1.symm.trans h2

theorem exprs_ok {rules : RuleCompiler} {f : Frame} {es : List Expr} {as : List Compiled}
    (hlen : es.length = as.length)
    (h : ∀ e a, (e, a) ∈ es.zip as → expr env rules f e = .ok a) :
    exprs env rules f es = .ok as := by
  have hf : List.Forall₂ (fun e a => expr env rules f e = .ok a) es as :=
    List.forall₂_iff_zip.2 ⟨hlen, fun hm => h _ _ hm⟩
  clear h hlen
  induction hf with
  | nil => rfl
  | cons he _ ih =>
    rw [exprs, he, ih]
    rfl

theorem planExprs_ok {rules : RuleCompiler} {f : Frame} {es : List Expr} {ps : List Plan}
    (hlen : es.length = ps.length)
    (h : ∀ e q, (e, q) ∈ es.zip ps → expr env rules f e = .ok (.dataset q)) :
    planExprs env rules f es = .ok ps := by
  have hf : List.Forall₂ (fun e q => expr env rules f e = .ok (.dataset q)) es ps :=
    List.forall₂_iff_zip.2 ⟨hlen, fun hm => h _ _ hm⟩
  clear h hlen
  induction hf with
  | nil => rfl
  | cons he _ ih =>
    rw [planExprs, he, ih]
    rfl

theorem calcItems_ok {rules : RuleCompiler} {source : Plan} {n : Nat} {items : List CalcItem}
    {bodies : List (Expr × Scalar)} {cs : List Calculated} (h : Items source n items bodies cs)
    (hb : ∀ e s, (e, s) ∈ bodies →
      expr env rules (Frame.ofSchema source.schema) e = .ok (.scalar s)) :
    calcItems env rules source n items = .ok cs := by
  induction h with
  | nil n => rfl
  | window hname hitem _ ih =>
    rw [calcItems_window, hname, hitem, ih hb]
    rfl
  | plain hname hplain _ ih =>
    rw [calcItems_plain _ _ _ _ _ _ hplain, hname, hb _ _ (List.mem_cons_self ..),
      ih fun e s hm => hb e s (List.mem_cons_of_mem _ hm)]
    rfl

theorem booleanRule_of_ok {compile : Expr → Result Compiled} {id : String} {e : Expr} {s : Scalar}
    (h : compile e = .ok (.scalar s)) (hs : Typing.expect id s.type? .boolean = .ok ()) :
    booleanRule compile id e = .ok s := by
  rw [booleanRule, h]
  change (located e.position (typing (Typing.expect id s.type? .boolean)) >>= fun _ => pure s) = _
  rw [hs]
  rfl

theorem rowRules_of_ok {compile : Expr → Result Compiled} {rs : List DatapointRule}
    {bodies : List (Expr × Scalar)} {rules : List RowRule} (h : Rules rs bodies rules)
    (hb : ∀ e s, (e, s) ∈ bodies → compile e = .ok (.scalar s)) :
    rowRules compile rs = .ok rules := by
  induction h with
  | nil => rfl
  | always hs _ ih =>
    rw [rowRules, booleanRule_of_ok (hb _ _ (List.mem_cons_self ..)) hs,
      ih fun e s hm => hb e s (List.mem_cons_of_mem _ hm)]
    rfl
  | guarded ht hs _ ih =>
    rw [rowRules, antecedent, booleanRule_of_ok (hb _ _ (List.mem_cons_self ..)) ht,
      booleanRule_of_ok (hb _ _ (List.mem_cons_of_mem _ (List.mem_cons_self ..))) hs,
      ih fun e s hm => hb e s (List.mem_cons_of_mem _ (List.mem_cons_of_mem _ hm))]
    rfl

theorem planExpr?_ok {rules : RuleCompiler} {f : Frame} {arg : Option Expr} {other : Option Plan}
    (hsome : arg.isSome = other.isSome)
    (h : ∀ i q, arg = some i → other = some q → expr env rules f i = .ok (.dataset q)) :
    planExpr? env rules f arg = .ok other := by
  cases arg with
  | none =>
    cases other with
    | none => rfl
    | some q => cases hsome
  | some i =>
    cases other with
    | none => cases hsome
    | some q =>
      rw [planExpr?, h i q rfl rfl]
      rfl

theorem optionalScalar_ok {rules : RuleCompiler} {f : Frame} {type : ScalarType}
    {arg : Option Expr} {s : Scalar} (hs : OptionalScalar type arg s)
    (h : ∀ i, arg = some i → expr env rules f i = .ok (.scalar s)) :
    optionalScalar env rules f type arg = .ok s := by
  cases arg with
  | none =>
    rw [hs.1 rfl]
    rfl
  | some i =>
    rw [optionalScalar, h i rfl]
    change (located i.position (typing (Typing.expect "check" s.type? type)) >>=
      fun _ => pure s) = _
    rw [hs.2 rfl]
    rfl

theorem Compiles.unbounded_ok {f : Frame} {e : Expr} {c : Compiled} (h : Compiles env f e c) :
    unbounded env f e = .ok c := by
  induction h with
  | literal =>
    rw [unbounded_eq, expr]
  | name h =>
    rw [unbounded_eq, expr, h]
    rfl
  | unary _ h ih =>
    rw [unbounded_eq, expr, ← unbounded_eq, ih]
    change located _ (env.lift _ _) = _
    rw [h]
    rfl
  | binary _ _ h ihl ihr =>
    rw [unbounded_eq, expr, ← unbounded_eq, ihl, ← unbounded_eq, ihr]
    change located _ (env.binary _ _ _) = _
    rw [h]
    rfl
  | conditional _ _ _ h iht ihy ihn =>
    rw [unbounded_eq, expr, ← unbounded_eq, iht, ← unbounded_eq, ihy, ← unbounded_eq, ihn]
    change located _ (env.conditional _ _ _) = _
    rw [h]
    rfl
  | cast _ h ih =>
    rw [unbounded_eq, expr, ← unbounded_eq, ih]
    change located _ (env.lift _ _) = _
    rw [h]
    rfl
  | call hlen _ h ih =>
    rw [unbounded_eq, expr, exprs_ok hlen fun e a hm => (unbounded_eq _ e).symm.trans (ih e a hm)]
    change located _ (env.lift _ _) = _
    rw [h]
    rfl
  | member _ h ih =>
    rw [unbounded_eq, expr, ← unbounded_eq, ih]
    change located _ (env.lift _ _) = _
    rw [h]
    rfl
  | select _ h ih =>
    rw [unbounded_eq, expr, ← unbounded_eq, ih]
    change (located _ (selectPlan _ _) >>= _) = _
    rw [h]
    rfl
  | filter _ _ ht ih ihc =>
    rw [unbounded_eq, expr, ← unbounded_eq, ih]
    change (expr env (unbounded env) (Frame.ofSchema _) _ >>= _) >>= _ = _
    rw [← unbounded_eq, ihc]
    change located _ (typing (Typing.expect _ _ _)) >>= _ = _
    rw [ht]
    rfl
  | keep _ h ih =>
    rw [unbounded_eq, expr, ← unbounded_eq, ih]
    change (located _ (projectPlan _ _ _) >>= _) = _
    rw [h]
    rfl
  | drop _ h ih =>
    rw [unbounded_eq, expr, ← unbounded_eq, ih]
    change (located _ (projectPlan _ _ _) >>= _) = _
    rw [h]
    rfl
  | rename _ h ih =>
    rw [unbounded_eq, expr, ← unbounded_eq, ih]
    change (located _ (renamePlan _ _) >>= _) = _
    rw [h]
    rfl
  | calculate _ hitems _ h ih ihb =>
    rw [unbounded_eq, expr, ← unbounded_eq, ih]
    change (calcItems env (unbounded env) _ 0 _ >>= _) = _
    rw [calcItems_ok hitems fun e s hm => (unbounded_eq _ e).symm.trans (ihb e s hm)]
    change (located _ (calculatePlan _ _) >>= _) = _
    rw [h]
    rfl
  | combine hcount hlen _ h ih =>
    rw [unbounded_eq, expr, if_pos hcount,
      planExprs_ok hlen fun e q hm => (unbounded_eq _ e).symm.trans (ih e q hm)]
    change (located _ (combinePlan _ _) >>= _) = _
    rw [h]
    rfl
  | window _ h ih =>
    rw [unbounded_eq, expr, ← unbounded_eq, ih]
    change (located _ (windowPlan _ _ _) >>= _) = _
    rw [h]
    rfl
  | checkDatapoint _ hrs hframe hrules _ h ih ihb =>
    rw [unbounded_eq, expr, ← unbounded_eq, ih]
    change (located _ (env.datapointRuleset _) >>= _) = _
    rw [hrs]
    change (located _ (rulesetFrame _ _ _) >>= _) = _
    rw [hframe]
    change (rowRules (unbounded env _) _ >>= _) = _
    rw [rowRules_of_ok hrules ihb]
    change (located _ (checkDatapointPlan _ _ _ _) >>= _) = _
    rw [h]
    rfl
  | check _ hmeasure hsome _ htype _ hc _ hl h ih iho ihc ihl =>
    rw [unbounded_eq, expr, ← unbounded_eq, ih]
    change (located _ (evaluation (Check.booleanMeasure _ _)) >>= _) = _
    rw [hmeasure]
    change (planExpr? env (unbounded env) _ _ >>= _) = _
    rw [planExpr?_ok hsome fun i q hi hq => (unbounded_eq _ i).symm.trans (iho i q hi hq)]
    change (located _ (imbalanceType _) >>= _) = _
    rw [htype]
    change (optionalScalar env (unbounded env) _ _ _ >>= _) = _
    rw [optionalScalar_ok hc fun i hi => (unbounded_eq _ i).symm.trans (ihc i hi)]
    change (optionalScalar env (unbounded env) _ _ _ >>= _) = _
    rw [optionalScalar_ok hl fun i hi => (unbounded_eq _ i).symm.trans (ihl i hi)]
    change (located _ (checkPlan _ _ _ _ _ _) >>= _) = _
    rw [h]
    rfl
  | checkHierarchy _ hrs h ih =>
    rw [unbounded_eq, expr, ← unbounded_eq, ih]
    change (located _ (env.hierarchicalRuleset _) >>= _) = _
    rw [hrs]
    change (located _ (checkHierarchyPlan _ _ _ _ _ _ _) >>= _) = _
    rw [h]
    rfl

theorem exists_depth {f : Frame} {e : Expr} {c : Compiled} (h : unbounded env f e = .ok c) :
    ∃ depth, compileWithin env depth f e = .ok c := by
  have hn : ¬ ∀ d, compileWithin env d f e = .error .unfinished := by
    intro hd
    rw [unbounded_eq_unfinished.2 hd] at h
    cases h
  obtain ⟨d, hd⟩ := not_forall.1 hn
  exact ⟨d, (unbounded_of_ne hd).symm.trans h⟩

theorem unbounded_ok_iff {f : Frame} {e : Expr} {c : Compiled} :
    unbounded env f e = .ok c ↔ Compiles env f e c := by
  constructor
  · intro h
    obtain ⟨d, hd⟩ := exists_depth h
    exact compileWithin_compiles hd
  · exact fun h => h.unbounded_ok

end Tabular.Compile
