import Mathlib.Order.WellFounded
import Tabular.Proofs.Compile.Depth
import Tabular.Proofs.Compile.Parts
import Tabular.Proofs.Structure
import Tabular.Session

set_option autoImplicit false

/-!
# When compilation ends

Compilation has an outcome exactly when there is no endless chain of parts, each begun by the one
before. An expression has finitely many parts inside each other, so an endless chain passes through
rulesets without end.
-/
namespace Tabular.Compile

variable {env : Env} {α β : Type}

theorem unfinished_of_bind {x : Result α} {next : α → Result β}
    (h : x >>= next = .error .unfinished) :
    x = .error .unfinished ∨ ∃ a, x = .ok a ∧ next a = .error .unfinished := by
  cases x with
  | ok a => exact .inr ⟨a, rfl, h⟩
  | error e =>
    cases h
    exact .inl rfl

theorem located_ne (p : Position) (x : Except CompileFault α) :
    located p x ≠ .error .unfinished := by
  cases x <;> exact nofun

theorem unfinished_of_asPlan {x : Result Compiled} {p : Position}
    (h : x >>= asPlan p = .error .unfinished) : x = .error .unfinished := by
  rcases unfinished_of_bind h with h | ⟨c, _, h⟩
  · exact h
  · cases c <;> cases h

theorem unfinished_of_asScalar {x : Result Compiled} {p : Position}
    (h : x >>= asScalar p = .error .unfinished) : x = .error .unfinished := by
  rcases unfinished_of_bind h with h | ⟨c, _, h⟩
  · exact h
  · cases c <;> cases h

theorem located_bind_ne {p : Position} {x : Except CompileFault α} {make : α → β} :
    (located p x >>= fun a => pure (make a) : Result β) ≠ .error .unfinished := by
  cases x <;> exact nofun

/-- No depth suffices to compile the expression in the frame. -/
def Endless (env : Env) (x : Frame × Expr) : Prop := unbounded env x.1 x.2 = .error .unfinished

theorem expr_ok {f : Frame} {e : Expr} {c : Compiled}
    (h : expr env (unbounded env) f e = .ok c) : Compiles env f e c :=
  unbounded_ok_iff.1 ((unbounded_eq f e).trans h)

theorem expr_endless {f : Frame} {e : Expr}
    (h : expr env (unbounded env) f e = .error .unfinished) : Endless env (f, e) :=
  (unbounded_eq f e).trans h

theorem exprs_endless {f : Frame} {es : List Expr}
    (h : exprs env (unbounded env) f es = .error .unfinished) :
    ∃ e, Reached (fun i => ∃ a, Compiles env f i a) Eq es e ∧ Endless env (f, e) := by
  induction es with
  | nil => cases h
  | cons e rest ih =>
    rw [exprs] at h
    rcases unfinished_of_bind h with h | ⟨a, ha, h⟩
    · exact ⟨e, .here rfl, expr_endless h⟩
    · rcases unfinished_of_bind h with h | ⟨as, _, h⟩
      · obtain ⟨i, hi, hn⟩ := ih h
        exact ⟨i, .later ⟨a, expr_ok ha⟩ hi, hn⟩
      · cases h

theorem planExprs_endless {f : Frame} {es : List Expr}
    (h : planExprs env (unbounded env) f es = .error .unfinished) :
    ∃ e, Reached (fun i => ∃ q, Compiles env f i (.dataset q)) Eq es e ∧ Endless env (f, e) := by
  induction es with
  | nil => cases h
  | cons e rest ih =>
    rw [planExprs] at h
    rcases unfinished_of_bind h with h | ⟨q, hq, h⟩
    · exact ⟨e, .here rfl, expr_endless (unfinished_of_asPlan h)⟩
    · rcases unfinished_of_bind h with h | ⟨qs, _, h⟩
      · obtain ⟨i, hi, hn⟩ := ih h
        exact ⟨i, .later ⟨q, expr_ok (ok_dataset_of_bind hq)⟩ hi, hn⟩
      · cases h

theorem planExpr?_endless {f : Frame} {arg : Option Expr}
    (h : planExpr? env (unbounded env) f arg = .error .unfinished) :
    ∃ i, arg = some i ∧ Endless env (f, i) := by
  cases arg with
  | none => cases h
  | some i =>
    rw [planExpr?] at h
    rcases unfinished_of_bind h with h | ⟨q, _, h⟩
    · exact ⟨i, rfl, expr_endless (unfinished_of_asPlan h)⟩
    · cases h

theorem optionalScalar_endless {f : Frame} {type : ScalarType} {arg : Option Expr}
    (h : optionalScalar env (unbounded env) f type arg = .error .unfinished) :
    ∃ i, arg = some i ∧ Endless env (f, i) := by
  cases arg with
  | none => cases h
  | some i =>
    rw [optionalScalar] at h
    rcases unfinished_of_bind h with h | ⟨s, _, h⟩
    · exact ⟨i, rfl, expr_endless (unfinished_of_asScalar h)⟩
    · exact absurd h located_bind_ne

theorem calcItems_endless {source : Plan} {n : Nat} {items : List CalcItem}
    (h : calcItems env (unbounded env) source n items = .error .unfinished) :
    ∃ i, Reached (ItemDone env source) (ItemPart source) items i ∧
      Endless env (Frame.ofSchema source.schema, i) := by
  induction items generalizing n with
  | nil => cases h
  | cons item rest ih =>
    obtain ⟨name, role, e⟩ := item
    obtain ⟨p, fn, q, component, extent, rfl⟩ | ⟨p, fn, operand, extent, rfl, ho⟩ | hp :=
      item_cases e
    · rw [calcItems_window] at h
      rcases unfinished_of_bind h with h | ⟨_, hname, h⟩
      · exact absurd h (located_ne _ _)
      · rcases unfinished_of_bind h with h | ⟨made, hi, h⟩
        · exact absurd h (located_ne _ _)
        · rcases unfinished_of_bind h with h | ⟨_, _, h⟩
          · obtain ⟨i, hi', hn⟩ := ih h
            refine ⟨i, .later ⟨located_ok hname, .inl ?_⟩ hi', hn⟩
            exact ⟨p, fn, q, component, extent, n, made, rfl, located_ok hi⟩
          · cases h
    · rw [calcItems_operand _ _ _ _ _ _ _ _ _ ho] at h
      rcases unfinished_of_bind h with h | ⟨_, _, h⟩
      · exact absurd h (located_ne _ _)
      · cases h
    · rw [calcItems_plain _ _ _ _ _ _ hp] at h
      rcases unfinished_of_bind h with h | ⟨_, hname, h⟩
      · exact absurd h (located_ne _ _)
      · rcases unfinished_of_bind h with h | ⟨s, hs, h⟩
        · exact ⟨e, .here ⟨located_ok hname, hp, rfl⟩, expr_endless (unfinished_of_asScalar h)⟩
        · rcases unfinished_of_bind h with h | ⟨_, _, h⟩
          · obtain ⟨i, hi, hn⟩ := ih h
            refine ⟨i, .later ⟨located_ok hname, .inr ⟨hp, s, ?_⟩⟩ hi, hn⟩
            exact expr_ok (ok_scalar_of_bind hs)
          · cases h

theorem booleanRule_endless {f : Frame} {id : String} {e : Expr}
    (h : booleanRule (unbounded env f) id e = .error .unfinished) : Endless env (f, e) := by
  rcases unfinished_of_bind h with h | ⟨c, _, h⟩
  · exact h
  · cases c with
    | scalar s => exact absurd h located_bind_ne
    | dataset q => cases h

theorem truth_of_booleanRule {f : Frame} {id : String} {e : Expr} {s : Scalar}
    (h : booleanRule (unbounded env f) id e = .ok s) : Truth env f id e := by
  obtain ⟨hs, ht⟩ := booleanRule_ok h
  exact ⟨s, unbounded_ok_iff.1 hs, ht⟩

theorem rowRules_endless {f : Frame} {rs : List DatapointRule}
    (h : rowRules (unbounded env f) rs = .error .unfinished) :
    ∃ i, Reached (RuleDone env f) (RulePart env f) rs i ∧ Endless env (f, i) := by
  induction rs with
  | nil => cases h
  | cons r rest ih =>
    rw [rowRules] at h
    rcases unfinished_of_bind h with h | ⟨a, ha, h⟩
    · cases hr : r.antecedent with
      | none =>
        rw [hr] at h
        cases h
      | some e =>
        rw [hr, antecedent] at h
        rcases unfinished_of_bind h with h | ⟨_, _, h⟩
        · exact ⟨e, .here (.inl hr), booleanRule_endless h⟩
        · cases h
    · have hdone : AntecedentDone env f r := by
        intro e he
        rw [he, antecedent] at ha
        obtain ⟨s, hs, _⟩ := ok_of_bind ha
        exact truth_of_booleanRule hs
      rcases unfinished_of_bind h with h | ⟨c, hc, h⟩
      · exact ⟨r.consequent, .here (.inr ⟨hdone, rfl⟩), booleanRule_endless h⟩
      · rcases unfinished_of_bind h with h | ⟨_, _, h⟩
        · obtain ⟨i, hi, hn⟩ := ih h
          exact ⟨i, .later ⟨hdone, truth_of_booleanRule hc⟩ hi, hn⟩
        · cases h

/-- Where the operand is compiled first and has to be a dataset, it is the operand that does not
    end, or what follows. -/
theorem endless_source {f : Frame} {e i : Expr} {p : Position} {next : Plan → Result Compiled}
    (hi : first? e = some i)
    (h : (expr env (unbounded env) f i >>= asPlan p) >>= next = .error .unfinished)
    (hnext : ∀ source, Compiles env f i (.dataset source) → next source = .error .unfinished →
      ∃ y, Begins env (f, e) y ∧ Endless env y) :
    ∃ y, Begins env (f, e) y ∧ Endless env y := by
  rcases unfinished_of_bind h with h | ⟨source, hs, h⟩
  · exact ⟨(f, i), .first hi, expr_endless (unfinished_of_asPlan h)⟩
  · exact hnext source (expr_ok (ok_dataset_of_bind hs)) h

theorem endless_operand {f : Frame} {e i : Expr} {next : Compiled → Result Compiled}
    (hi : first? e = some i)
    (h : expr env (unbounded env) f i >>= next = .error .unfinished)
    (hnext : ∀ a, next a ≠ .error .unfinished) :
    ∃ y, Begins env (f, e) y ∧ Endless env y := by
  rcases unfinished_of_bind h with h | ⟨a, _, h⟩
  · exact ⟨(f, i), .first hi, expr_endless h⟩
  · exact absurd h (hnext a)

theorem endless_check {f : Frame} {p : Position} {e : Expr} {code level imbalance : Option Expr}
    {invalid : Bool} (h : expr env (unbounded env) f (.check p e code level imbalance invalid) =
      .error .unfinished) :
    ∃ y, Begins env (f, .check p e code level imbalance invalid) y ∧ Endless env y := by
  rw [expr] at h
  refine endless_source rfl h fun condition hc h => ?_
  rcases unfinished_of_bind h with h | ⟨measure, hm, h⟩
  · exact absurd h (located_ne _ _)
  · have hm := evaluation_ok (located_ok hm)
    rcases unfinished_of_bind h with h | ⟨other, ho, h⟩
    · obtain ⟨i, rfl, hn⟩ := planExpr?_endless h
      exact ⟨(f, i), .imbalance hc hm, hn⟩
    · rcases unfinished_of_bind h with h | ⟨type, ht, h⟩
      · exact absurd h (located_ne _ _)
      · obtain ⟨hsome, hother⟩ := planExpr?_compiles (fun _ _ _ => unbounded_ok_iff.1) ho
        have hdone : CheckDone env f e imbalance :=
          ⟨condition, measure, other, type, hc, hm, hsome, hother, located_ok ht⟩
        rcases unfinished_of_bind h with h | ⟨c, hc', h⟩
        · obtain ⟨i, rfl, hn⟩ := optionalScalar_endless h
          exact ⟨(f, i), .code hdone, hn⟩
        · obtain ⟨hcode, hcs⟩ := optionalScalar_compiles (fun _ _ _ => unbounded_ok_iff.1) hc'
          rcases unfinished_of_bind h with h | ⟨l, _, h⟩
          · obtain ⟨i, rfl, hn⟩ := optionalScalar_endless h
            exact ⟨(f, i), .level hdone hcode hcs, hn⟩
          · exact absurd h located_bind_ne

theorem endless_checkDatapoint {f : Frame} {p : Position} {e : Expr} {ruleset : String}
    {components : List String} {mode : OutputMode}
    (h : expr env (unbounded env) f (.checkDatapoint p e ruleset components mode) =
      .error .unfinished) :
    ∃ y, Begins env (f, .checkDatapoint p e ruleset components mode) y ∧ Endless env y := by
  rw [expr] at h
  refine endless_source rfl h fun source hs h => ?_
  rcases unfinished_of_bind h with h | ⟨rs, hrs, h⟩
  · exact absurd h (located_ne _ _)
  · rcases unfinished_of_bind h with h | ⟨inner, hf, h⟩
    · exact absurd h (located_ne _ _)
    · rcases unfinished_of_bind h with h | ⟨_, _, h⟩
      · obtain ⟨i, hi, hn⟩ := rowRules_endless h
        exact ⟨(inner, i), .rule hs (located_ok hrs) (located_ok hf) hi, hn⟩
      · exact absurd h located_bind_ne

theorem endless_begins {f : Frame} {e : Expr} (h : Endless env (f, e)) :
    ∃ y, Begins env (f, e) y ∧ Endless env y := by
  have h : expr env (unbounded env) f e = .error .unfinished := (unbounded_eq f e).symm.trans h
  cases e with
  | literal p v => cases h
  | name p n => exact absurd h (located_ne _ _)
  | unary p op e =>
    rw [expr] at h
    exact endless_operand rfl h fun _ => located_ne _ _
  | binary p op l r =>
    rw [expr] at h
    rcases unfinished_of_bind h with h | ⟨a, ha, h⟩
    · exact ⟨(f, l), .first rfl, expr_endless h⟩
    · rcases unfinished_of_bind h with h | ⟨b, _, h⟩
      · exact ⟨(f, r), .right (expr_ok ha), expr_endless h⟩
      · exact absurd h (located_ne _ _)
  | conditional p t y n =>
    rw [expr] at h
    rcases unfinished_of_bind h with h | ⟨test, ht, h⟩
    · exact ⟨(f, t), .first rfl, expr_endless (unfinished_of_asScalar h)⟩
    · have ht := expr_ok (ok_scalar_of_bind ht)
      rcases unfinished_of_bind h with h | ⟨yes, hy, h⟩
      · exact ⟨(f, y), .yes ht, expr_endless (unfinished_of_asScalar h)⟩
      · have hy := expr_ok (ok_scalar_of_bind hy)
        rcases unfinished_of_bind h with h | ⟨no, _, h⟩
        · exact ⟨(f, n), .no ht hy, expr_endless (unfinished_of_asScalar h)⟩
        · exact absurd h (located_ne _ _)
  | cast p e target =>
    rw [expr] at h
    exact endless_operand rfl h fun _ => located_ne _ _
  | call p fn args =>
    cases fn with
    | timeSeries fn =>
      rw [expr] at h
      cases h
    | scalar fn =>
      rw [expr] at h
      rcases unfinished_of_bind h with h | ⟨as, _, h⟩
      · obtain ⟨e, he, hn⟩ := exprs_endless h
        exact ⟨(f, e), .argument he, hn⟩
      · exact absurd h (located_ne _ _)
  | member p e set negated =>
    rw [expr] at h
    exact endless_operand rfl h fun _ => located_ne _ _
  | select p e component =>
    rw [expr] at h
    exact endless_source rfl h fun _ _ h => absurd h located_bind_ne
  | filter p e condition =>
    rw [expr] at h
    refine endless_source rfl h fun source hs h => ?_
    rcases unfinished_of_bind h with h | ⟨c, _, h⟩
    · exact ⟨_, .condition hs, expr_endless (unfinished_of_asScalar h)⟩
    · exact absurd h located_bind_ne
  | keep p e names =>
    rw [expr] at h
    exact endless_source rfl h fun _ _ h => absurd h located_bind_ne
  | drop p e names =>
    rw [expr] at h
    exact endless_source rfl h fun _ _ h => absurd h located_bind_ne
  | rename p e pairs =>
    rw [expr] at h
    exact endless_source rfl h fun _ _ h => absurd h located_bind_ne
  | calculate p e items =>
    rw [expr] at h
    refine endless_source rfl h fun source hs h => ?_
    rcases unfinished_of_bind h with h | ⟨_, _, h⟩
    · obtain ⟨i, hi, hn⟩ := calcItems_endless h
      exact ⟨_, .item hs hi, hn⟩
    · exact absurd h located_bind_ne
  | combine p op es =>
    rw [expr] at h
    split at h
    · rename_i hcount
      rcases unfinished_of_bind h with h | ⟨_, _, h⟩
      · obtain ⟨e, he, hn⟩ := planExprs_endless h
        exact ⟨(f, e), .operand hcount he, hn⟩
      · exact absurd h located_bind_ne
    · cases h
  | window p fn e extent =>
    rw [expr] at h
    refine endless_operand rfl h fun a => ?_
    cases a with
    | scalar s => exact nofun
    | dataset source => exact located_bind_ne
  | checkDatapoint p e ruleset components mode => exact endless_checkDatapoint h
  | check p e code level imbalance invalid => exact endless_check h
  | checkHierarchy p e ruleset component validation input output =>
    rw [expr] at h
    refine endless_source rfl h fun source _ h => ?_
    rcases unfinished_of_bind h with h | ⟨rs, _, h⟩
    · exact absurd h (located_ne _ _)
    · exact absurd h located_bind_ne

theorem bind_unfinished {x : Result α} {a : α} {next : α → Result β}
    (hx : x = .error .unfinished ∨ x = .ok a) (hn : next a = .error .unfinished) :
    x >>= next = .error .unfinished := by
  rcases hx with hx | hx
  · rw [hx]
    rfl
  · rw [hx]
    exact hn

theorem asPlan_within {x : Result Compiled} {p : Position} {q : Plan}
    (hx : x = .error .unfinished ∨ x = .ok (.dataset q)) :
    x >>= asPlan p = .error .unfinished ∨ x >>= asPlan p = .ok q := by
  rcases hx with hx | hx
  · exact .inl (by rw [hx]; rfl)
  · exact .inr (by rw [hx]; rfl)

theorem asScalar_within {x : Result Compiled} {p : Position} {s : Scalar}
    (hx : x = .error .unfinished ∨ x = .ok (.scalar s)) :
    x >>= asScalar p = .error .unfinished ∨ x >>= asScalar p = .ok s := by
  rcases hx with hx | hx
  · exact .inl (by rw [hx]; rfl)
  · exact .inr (by rw [hx]; rfl)

variable {d : Nat}

theorem Compiles.rule_within {f : Frame} {e : Expr} {c : Compiled} (h : Compiles env f e c) :
    compileWithin env d f e = .error .unfinished ∨ compileWithin env d f e = .ok c := by
  rcases compileWithin_refines d f e with hd | hd
  · exact .inl hd
  · exact .inr (hd.trans h.unbounded_ok)

theorem Compiles.within {f : Frame} {e : Expr} {c : Compiled} (h : Compiles env f e c) :
    expr env (compileWithin env d) f e = .error .unfinished ∨
      expr env (compileWithin env d) f e = .ok c :=
  h.rule_within (d := d + 1)

theorem exprs_unfinished {f : Frame} {es : List Expr} {e : Expr}
    (h : Reached (fun i => ∃ a, Compiles env f i a) Eq es e)
    (hu : expr env (compileWithin env d) f e = .error .unfinished) :
    exprs env (compileWithin env d) f es = .error .unfinished := by
  induction h with
  | here he =>
    subst he
    rw [exprs, hu]
    rfl
  | later hx _ ih =>
    obtain ⟨a, ha⟩ := hx
    rw [exprs]
    refine bind_unfinished ha.within ?_
    rw [ih hu]
    rfl

theorem planExprs_unfinished {f : Frame} {es : List Expr} {e : Expr}
    (h : Reached (fun i => ∃ q, Compiles env f i (.dataset q)) Eq es e)
    (hu : expr env (compileWithin env d) f e = .error .unfinished) :
    planExprs env (compileWithin env d) f es = .error .unfinished := by
  induction h with
  | here he =>
    subst he
    rw [planExprs, hu]
    rfl
  | later hx _ ih =>
    obtain ⟨q, hq⟩ := hx
    rw [planExprs]
    refine bind_unfinished (asPlan_within hq.within) ?_
    rw [ih hu]
    rfl

theorem calcItems_unfinished {source : Plan} {n : Nat} {items : List CalcItem} {i : Expr}
    (h : Reached (ItemDone env source) (ItemPart source) items i)
    (hu : expr env (compileWithin env d) (Frame.ofSchema source.schema) i = .error .unfinished) :
    calcItems env (compileWithin env d) source n items = .error .unfinished := by
  induction h generalizing n with
  | @here item _ _ hp =>
    obtain ⟨name, role, e⟩ := item
    obtain ⟨hname, hplain, rfl⟩ := hp
    rw [calcItems_plain _ _ _ _ _ _ hplain, hname, hu]
    rfl
  | @later item _ _ hx _ ih =>
    obtain ⟨name, role, e⟩ := item
    obtain ⟨hname, ⟨p, fn, q, component, extent, m, made, rfl, hm⟩ | ⟨hplain, s, hs⟩⟩ := hx
    · obtain ⟨other, ho⟩ := windowItem_any hm n
      rw [calcItems_window, hname, ho, ih hu]
      rfl
    · rw [calcItems_plain _ _ _ _ _ _ hplain, hname]
      refine bind_unfinished (.inr rfl) (bind_unfinished (asScalar_within hs.within) ?_)
      rw [ih hu]
      rfl

theorem booleanRule_within {f : Frame} {id : String} {e : Expr} (h : Truth env f id e) :
    booleanRule (compileWithin env d f) id e = .error .unfinished ∨
      ∃ s, booleanRule (compileWithin env d f) id e = .ok s := by
  obtain ⟨s, hs, ht⟩ := h
  rcases hs.rule_within (d := d) with hd | hd
  · left
    rw [booleanRule, hd]
    rfl
  · exact .inr ⟨s, booleanRule_of_ok hd ht⟩

theorem antecedent_within {f : Frame} {r : DatapointRule} (h : AntecedentDone env f r) :
    antecedent (compileWithin env d f) r.id r.antecedent = .error .unfinished ∨
      ∃ a, antecedent (compileWithin env d f) r.id r.antecedent = .ok a := by
  cases hr : r.antecedent with
  | none => exact .inr ⟨none, rfl⟩
  | some a =>
    rcases booleanRule_within (d := d) (h a hr) with hd | ⟨s, hd⟩
    · left
      rw [antecedent, hd]
      rfl
    · exact .inr ⟨some s, by rw [antecedent, hd]; rfl⟩

theorem rowRules_unfinished {f : Frame} {rs : List DatapointRule} {i : Expr}
    (h : Reached (RuleDone env f) (RulePart env f) rs i)
    (hu : compileWithin env d f i = .error .unfinished) :
    rowRules (compileWithin env d f) rs = .error .unfinished := by
  have hb : ∀ id, booleanRule (compileWithin env d f) id i = .error .unfinished := by
    intro id
    rw [booleanRule, hu]
    rfl
  induction h with
  | here hp =>
    rw [rowRules]
    rcases hp with ha | ⟨hdone, rfl⟩
    · rw [ha, antecedent, hb]
      rfl
    · rcases antecedent_within hdone with hd | ⟨a, hd⟩
      · rw [hd]
        rfl
      · rw [hd, hb]
        rfl
  | later hx _ ih =>
    rw [rowRules]
    rcases antecedent_within hx.1 with hd | ⟨a, hd⟩
    · rw [hd]
      rfl
    · rw [hd]
      rcases booleanRule_within hx.2 with hc | ⟨c, hc⟩
      · rw [hc]
        rfl
      · rw [hc, ih hu hb]
        rfl

theorem Reached.exists_mem {α β : Type} {Done : α → Prop} {Part : α → β → Prop} {xs : List α}
    {b : β} (h : Reached Done Part xs b) : ∃ x ∈ xs, Part x b := by
  induction h with
  | here h => exact ⟨_, List.mem_cons_self .., h⟩
  | later _ _ ih =>
    obtain ⟨x, hx, hp⟩ := ih
    exact ⟨x, List.mem_cons_of_mem _ hx, hp⟩

theorem sizeOf_first? {e i : Expr} (h : first? e = some i) : sizeOf i < sizeOf e := by
  cases e <;> simp only [first?, Option.some.injEq, reduceCtorEq] at h <;> subst h <;>
    simp only [Expr.unary.sizeOf_spec, Expr.binary.sizeOf_spec, Expr.conditional.sizeOf_spec,
      Expr.cast.sizeOf_spec, Expr.member.sizeOf_spec, Expr.select.sizeOf_spec,
      Expr.filter.sizeOf_spec, Expr.keep.sizeOf_spec, Expr.drop.sizeOf_spec,
      Expr.rename.sizeOf_spec, Expr.calculate.sizeOf_spec, Expr.window.sizeOf_spec,
      Expr.checkDatapoint.sizeOf_spec, Expr.check.sizeOf_spec,
      Expr.checkHierarchy.sizeOf_spec] <;> omega

theorem first_unfinished {f : Frame} {e i : Expr} (h : first? e = some i)
    (hu : expr env (compileWithin env d) f i = .error .unfinished) :
    expr env (compileWithin env d) f e = .error .unfinished := by
  cases e <;> simp only [first?, Option.some.injEq, reduceCtorEq] at h <;> subst h <;>
    rw [expr, hu] <;> rfl

theorem planExpr?_within {f : Frame} {arg : Option Expr} {other : Option Plan}
    (hsome : arg.isSome = other.isSome)
    (h : ∀ i q, arg = some i → other = some q → Compiles env f i (.dataset q)) :
    planExpr? env (compileWithin env d) f arg = .error .unfinished ∨
      planExpr? env (compileWithin env d) f arg = .ok other := by
  cases arg with
  | none => exact .inr (planExpr?_ok hsome nofun)
  | some i =>
    cases other with
    | none => cases hsome
    | some q =>
      rcases (h i q rfl rfl).within (d := d) with hd | hd
      · left
        rw [planExpr?, hd]
        rfl
      · right
        rw [planExpr?, hd]
        rfl

theorem optionalScalar_within {f : Frame} {type : ScalarType} {arg : Option Expr} {s : Scalar}
    (hs : OptionalScalar type arg s) (h : ∀ i, arg = some i → Compiles env f i (.scalar s)) :
    optionalScalar env (compileWithin env d) f type arg = .error .unfinished ∨
      optionalScalar env (compileWithin env d) f type arg = .ok s := by
  cases arg with
  | none => exact .inr (optionalScalar_ok hs nofun)
  | some i =>
    rcases (h i rfl).within (d := d) with hd | hd
    · left
      rw [optionalScalar, hd]
      rfl
    · refine .inr (optionalScalar_ok hs fun j hj => ?_)
      cases hj
      exact hd

theorem optionalScalar_unfinished {f : Frame} {type : ScalarType} {i : Expr}
    (hu : expr env (compileWithin env d) f i = .error .unfinished) :
    optionalScalar env (compileWithin env d) f type (some i) = .error .unfinished := by
  rw [optionalScalar, hu]
  rfl

theorem check_unfinished {f : Frame} {p : Position} {e : Expr} {code level imbalance : Option Expr}
    {invalid : Bool} (h : CheckDone env f e imbalance)
    (hu : ∀ next : Scalar → Scalar → Result Compiled,
      (optionalScalar env (compileWithin env d) f .string code >>= fun c =>
        optionalScalar env (compileWithin env d) f .integer level >>= next c) =
        .error .unfinished) :
    expr env (compileWithin env d) f (.check p e code level imbalance invalid) =
      .error .unfinished := by
  obtain ⟨condition, measure, other, type, hc, hm, hsome, hother, ht⟩ := h
  rw [expr]
  refine bind_unfinished (asPlan_within hc.within) ?_
  refine bind_unfinished (.inr (by rw [hm]; rfl)) ?_
  refine bind_unfinished (planExpr?_within hsome hother) ?_
  exact bind_unfinished (.inr (by rw [ht]; rfl)) (hu _)

/-- A part that is smaller and unfinished within the same depth, or a rule that is unfinished within
    the depth that is left for it, leaves the whole unfinished. -/
theorem unfinished_of_begins (d : Nat) {x y : Frame × Expr} (h : Begins env x y) :
    (sizeOf y.2 < sizeOf x.2 ∧ (compileWithin env (d + 1) y.1 y.2 = .error .unfinished →
      compileWithin env (d + 1) x.1 x.2 = .error .unfinished)) ∨
    (compileWithin env d y.1 y.2 = .error .unfinished →
      compileWithin env (d + 1) x.1 x.2 = .error .unfinished) := by
  simp only [compileWithin]
  cases h with
  | first h => exact .inl ⟨sizeOf_first? h, first_unfinished h⟩
  | right hl =>
    refine .inl ⟨?_, fun hu => ?_⟩
    · simp only [Expr.binary.sizeOf_spec]
      omega
    · rw [expr]
      refine bind_unfinished hl.within ?_
      rw [hu]
      rfl
  | yes ht =>
    refine .inl ⟨?_, fun hu => ?_⟩
    · simp only [Expr.conditional.sizeOf_spec]
      omega
    · rw [expr]
      refine bind_unfinished (asScalar_within ht.within) ?_
      rw [hu]
      rfl
  | no ht hy =>
    refine .inl ⟨?_, fun hu => ?_⟩
    · simp only [Expr.conditional.sizeOf_spec]
      omega
    · rw [expr]
      refine bind_unfinished (asScalar_within ht.within) ?_
      refine bind_unfinished (asScalar_within hy.within) ?_
      rw [hu]
      rfl
  | argument h =>
    refine .inl ⟨?_, fun hu => ?_⟩
    · obtain ⟨_, hm, rfl⟩ := h.exists_mem
      have hs := List.sizeOf_lt_of_mem hm
      simp only [Expr.call.sizeOf_spec]
      omega
    · rw [expr, exprs_unfinished h hu]
      rfl
  | condition he =>
    refine .inl ⟨?_, fun hu => ?_⟩
    · simp only [Expr.filter.sizeOf_spec]
      omega
    · rw [expr]
      refine bind_unfinished (asPlan_within he.within) ?_
      dsimp only at hu ⊢
      rw [hu]
      rfl
  | item he h =>
    refine .inl ⟨?_, fun hu => ?_⟩
    · obtain ⟨⟨name, role, e⟩, hm, _, _, rfl⟩ := h.exists_mem
      have hs := List.sizeOf_lt_of_mem hm
      simp only [Expr.calculate.sizeOf_spec]
      simp only [CalcItem.mk.sizeOf_spec] at hs
      omega
    · rw [expr]
      refine bind_unfinished (asPlan_within he.within) ?_
      rw [calcItems_unfinished h hu]
      rfl
  | operand hcount h =>
    refine .inl ⟨?_, fun hu => ?_⟩
    · obtain ⟨_, hm, rfl⟩ := h.exists_mem
      have hs := List.sizeOf_lt_of_mem hm
      simp only [Expr.combine.sizeOf_spec]
      omega
    · rw [expr, if_pos hcount, planExprs_unfinished h hu]
      rfl
  | rule he hrs hframe h =>
    refine .inr fun hu => ?_
    rw [expr]
    refine bind_unfinished (asPlan_within he.within) ?_
    refine bind_unfinished (.inr (by rw [hrs]; rfl)) ?_
    refine bind_unfinished (.inr (by rw [hframe]; rfl)) ?_
    rw [rowRules_unfinished h hu]
    rfl
  | imbalance he hm =>
    refine .inl ⟨?_, fun hu => ?_⟩
    · simp only [Expr.check.sizeOf_spec, Option.some.sizeOf_spec]
      omega
    · rw [expr]
      refine bind_unfinished (asPlan_within he.within) ?_
      refine bind_unfinished (.inr (by rw [hm]; rfl)) ?_
      rw [planExpr?, hu]
      rfl
  | code h =>
    refine .inl ⟨?_, fun hu => ?_⟩
    · simp only [Expr.check.sizeOf_spec, Option.some.sizeOf_spec]
      omega
    · refine check_unfinished h fun next => ?_
      rw [optionalScalar_unfinished hu]
      rfl
  | level h hcode hc =>
    refine .inl ⟨?_, fun hu => ?_⟩
    · simp only [Expr.check.sizeOf_spec, Option.some.sizeOf_spec]
      omega
    · refine check_unfinished h fun next => ?_
      refine bind_unfinished (optionalScalar_within hc hcode) ?_
      rw [optionalScalar_unfinished hu]
      rfl

/-- Within a depth that suffices, parts inside each other come to an end: a part is smaller, and a
    rule has less depth. -/
theorem acc_of_ne {d : Nat} {f : Frame} {e : Expr}
    (h : compileWithin env d f e ≠ .error .unfinished) :
    Acc (fun y x => Begins env x y) (f, e) := by
  induction d generalizing f e with
  | zero => exact absurd rfl h
  | succ d ih =>
    generalize hn : sizeOf e = n
    induction n using Nat.strongRecOn generalizing f e with
    | ind n ihn =>
      refine .intro _ fun y hy => ?_
      obtain ⟨g, i⟩ := y
      rcases unfinished_of_begins d hy with ⟨hs, hu⟩ | hu
      · exact ihn (sizeOf i) (hn ▸ hs) (fun hi => h (hu hi)) rfl
      · exact ih fun hi => h (hu hi)

theorem not_endless_of_acc {x : Frame × Expr} (h : Acc (fun y x => Begins env x y) x) :
    ¬ Endless env x := by
  induction h with
  | intro x _ ih =>
    intro hx
    obtain ⟨y, hy, hn⟩ := endless_begins hx
    exact ih y hy hn

/-- Some depth suffices exactly when there is no endless chain of parts, each begun by the one
    before. -/
theorem terminates_iff {f : Frame} {e : Expr} :
    (∃ depth, compileWithin env depth f e ≠ .error .unfinished) ↔
      ¬ ∃ chain : Nat → Frame × Expr, chain 0 = (f, e) ∧
        ∀ n, Begins env (chain n) (chain (n + 1)) := by
  rw [← not_acc_iff_exists_descending_chain (r := fun y x => Begins env x y), not_not]
  constructor
  · rintro ⟨d, hd⟩
    exact acc_of_ne hd
  · intro h
    by_contra hn
    have hd : ∀ d, compileWithin env d f e = .error .unfinished := by
      intro d
      by_contra hd
      exact hn ⟨d, hd⟩
    exact not_endless_of_acc h (unbounded_eq_unfinished.2 hd)

def selfCheck : Expr := .checkDatapoint {} (.name {} "D") "loop" [] .all

def selfSession : Session :=
  (Session.execute ⟨{}, .memory, ⟨[("D", .dataset tally)]⟩⟩ .epoch
    (.defineDatapoint {} "loop" .components [⟨"m", none⟩] [{ consequent := selfCheck }])).1

def selfEnv : Env := ⟨selfSession.context, selfSession.config⟩

theorem selfCheck_succ (rules : RuleCompiler) (f : Frame) (hf : f.get? "D" = none)
    (h : rules [("m", ("m", .integer))] selfCheck = .error .unfinished) :
    expr selfEnv rules f selfCheck = .error .unfinished := by
  have hd : expr selfEnv rules f (.name {} "D") =
      .ok (.dataset (.named "D" tally.schema)) := by
    rw [expr, Env.name, hf]
    rfl
  rw [selfCheck, expr, hd]
  change (rowRules (rules [("m", ("m", .integer))]) [⟨"loop_1", none, selfCheck, none, none⟩] >>= _)
    = _
  rw [rowRules, booleanRule, h]
  rfl

/-- After a statement no depth suffices for this expression. -/
theorem unfinished_selfCheck :
    ¬ ∃ depth, compileWithin selfEnv depth [] selfCheck ≠ .error .unfinished := by
  have hinner : ∀ depth,
      compileWithin selfEnv depth [("m", ("m", .integer))] selfCheck = .error .unfinished := by
    intro depth
    induction depth with
    | zero => rfl
    | succ depth ih => exact selfCheck_succ _ _ rfl ih
  rintro ⟨depth, h⟩
  apply h
  cases depth with
  | zero => rfl
  | succ depth => exact selfCheck_succ _ _ rfl (hinner depth)

end Tabular.Compile
