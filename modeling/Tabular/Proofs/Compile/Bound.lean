import Mathlib.Data.List.Count
import Tabular.Proofs.Compile.Congruence
import Tabular.Proofs.Compile.Plans

set_option autoImplicit false

/-!
# The bound on the depth

The depth `compile` allows is enough: what is unfinished within it is unfinished within any depth.
How the rules of a ruleset compile in a frame depends, as far as finishing goes, on nothing but the
types of the names in the frame. So there are as many cases as there are rulesets with types for
their variables. With each step of depth some unfinished case is finished or no case ever will be.
-/
namespace Tabular.Compile

section
variable {α : Type} {P : Nat → α → Prop}

open Classical in
/-- Properties that shrink step by step come, on a list, to a step on which they do not shrink
    within as many steps as the list is long. -/
theorem exists_steady (xs : List α) (hanti : ∀ d x, P (d + 1) x → P d x) :
    ∃ d ≤ xs.length, ∀ x ∈ xs, P d x → P (d + 1) x := by
  by_contra hn
  have hdrop : ∀ d ≤ xs.length, xs.countP (P (d + 1)) < xs.countP (P d) := by
    intro d hd
    obtain ⟨x, hx, hold, hnew⟩ : ∃ x ∈ xs, P d x ∧ ¬ P (d + 1) x := by
      by_contra hs
      refine hn ⟨d, hd, fun x hx hp => ?_⟩
      by_contra hq
      exact hs ⟨x, hx, hp, hq⟩
    obtain ⟨before, after, rfl⟩ := List.append_of_mem hx
    have hmono : ∀ ys : List α, ys.countP (P (d + 1)) ≤ ys.countP (P d) := fun ys =>
      List.countP_mono_left fun y _ hy => decide_eq_true (hanti d y (of_decide_eq_true hy))
    have hbefore := hmono before
    have hafter := hmono after
    simp only [List.countP_append, List.countP_cons, hold, hnew, decide_true, decide_false, if_true,
      Bool.false_eq_true, if_false]
    omega
  have hsum : ∀ d ≤ xs.length + 1, xs.countP (P d) + d ≤ xs.length := by
    intro d
    induction d with
    | zero => exact fun _ => List.countP_le_length
    | succ d ih =>
      intro hd
      have h1 := ih (by omega)
      have h2 := hdrop d (by omega)
      omega
  have := hsum (xs.length + 1) (Nat.le_refl _)
  omega

end

/-- Equal, or of the same type and not to be known in advance. -/
def SameShape (a b : Scalar) : Prop :=
  a = b ∨ a.type? = b.type? ∧ a.isConstant = false ∧ b.isConstant = false

namespace SameShape

theorem known {a b : Scalar} (h : SameShape a b) : a.known? = b.known? := by
  rcases h with rfl | ⟨_, ha, hb⟩
  · rfl
  · simp only [Scalar.known?, ha, hb, Bool.false_and, Bool.false_eq_true, if_false]

theorem all {as bs : List Scalar} (h : List.Forall₂ SameShape as bs) :
    as = bs ∨ Scalar.allConstant as = false ∧ Scalar.allConstant bs = false := by
  induction h with
  | nil => exact .inl rfl
  | cons h _ ih =>
    simp only [Scalar.allConstant, Bool.and_eq_false_iff]
    rcases h with rfl | ⟨_, ha, hb⟩
    · rcases ih with rfl | ⟨ha, hb⟩
      · exact .inl rfl
      · exact .inr ⟨.inr ha, .inr hb⟩
    · exact .inr ⟨.inl ha, .inl hb⟩

theorem fold {a b : Scalar} (h : SameShape a b) : SameShape a.fold b.fold := by
  have hk := h.known
  rcases h with rfl | h
  · exact .inl rfl
  · unfold Scalar.fold
    have hn : a.known? = none := by simp [Scalar.known?, h.2.1]
    rw [← hk, hn]
    exact .inr h

end SameShape

def shape : Likeness := ⟨SameShape, fun p q => p.schema = q.schema ∧ p.name = q.name⟩

namespace shape

theorem congruent : shape.Congruent where
  type h := by
    rcases h with rfl | h
    · rfl
    · exact h.1
  known h := h.known
  literal v t := .inl rfl
  read n t := .inl rfl
  apply op as bs h := by
    rcases SameShape.all h with rfl | ⟨ha, hb⟩
    · exact .inl rfl
    · exact .inr ⟨rfl, by simp [Scalar.isConstant, ha], by simp [Scalar.isConstant, hb]⟩
  shortCircuit dominant l l' r r' hl hr := by
    rcases SameShape.all (.cons hl (.cons hr .nil)) with heq | ⟨ha, hb⟩
    · cases heq
      exact .inl rfl
    · simp only [Scalar.allConstant, Bool.and_true] at ha hb
      exact .inr ⟨rfl, ha, hb⟩
  conditional type t t' y y' n n' ht hy hn := by
    rcases SameShape.all (.cons ht (.cons hy (.cons hn .nil))) with heq | ⟨ha, hb⟩
    · cases heq
      exact .inl rfl
    · simp only [Scalar.allConstant, Bool.and_true, ← Bool.and_assoc] at ha hb
      exact .inr ⟨rfl, ha, hb⟩
  schema h := h.1
  name h := h.2
  rename pairs s h := ⟨rfl, rfl⟩
  project names keep s h := ⟨rfl, rfl⟩
  filter h _ := ⟨h.1, rfl⟩
  calculate calls as bs s h ha := ⟨rfl, rfl⟩
  windowed calls attributes s h := ⟨rfl, rfl⟩
  map m s h := ⟨rfl, rfl⟩
  combine op ps qs s h := ⟨rfl, rfl⟩
  checkDatapoint measures mode s h ha := ⟨rfl, rfl⟩
  check mode s h hab hc hl := ⟨rfl, rfl⟩
  checkHierarchy check s h := ⟨rfl, rfl⟩

theorem both (c : Compiled) : shape.Both c c := by
  cases c with
  | scalar e => exact .scalar (.inl rfl)
  | dataset p => exact .dataset ⟨rfl, rfl⟩

theorem rule (r : RowRule) : shape.Rule r r where
  id := rfl
  antecedent := by
    cases r.antecedent with
    | none => exact .none
    | some a => exact .some (.inl rfl)
  consequent := .inl rfl
  code := rfl
  level := rfl

end shape

theorem Env.shape_like (env : Env) : env.Like shape env where
  fold {a b} h := by
    split
    · exact SameShape.fold h
    · exact h
  policy := rfl
  keepComponent := rfl
  patterns := rfl

/-- The same names are visible with the same types, for whatever components. -/
def Frame.SameTypes (f f' : Frame) : Prop :=
  List.Forall₂ (fun a b => a.1 = b.1 ∧ a.2.2 = b.2.2) f f'

namespace Frame.SameTypes

variable {env : Env} {f f' : Frame}

theorem refl (f : Frame) : SameTypes f f := List.forall₂_same.2 fun _ _ => ⟨rfl, rfl⟩

theorem hide (h : SameTypes f f') (n : String) :
    SameTypes (f.filter (·.1 != n)) (f'.filter (·.1 != n)) := by
  induction h with
  | nil => exact .nil
  | @cons a b _ _ hab _ ih =>
    rw [List.filter_cons, List.filter_cons, hab.1]
    split
    · exact .cons hab ih
    · exact ih

theorem name (h : SameTypes f f') (n : String) :
    Paired shape.Both (env.name f n) (env.name f' n) := by
  have hfind : Option.Rel _ (f.find? (·.1 == n)) (f'.find? (·.1 == n)) :=
    find?_like h fun a b hab => by rw [hab.1]
  unfold Env.name Frame.get?
  generalize f.find? _ = a, f'.find? _ = b at hfind
  cases hfind with
  | none => exact .refl shape.both _
  | @some a b hab =>
    dsimp only [Option.map_some]
    exact .ok (.scalar (.inr ⟨congrArg some hab.2, rfl, rfl⟩))

theorem compileWithin (h : SameTypes f f') (d : Nat) (e : Expr) :
    Paired shape.Both (Compile.compileWithin env d f e) (Compile.compileWithin env d f' e) := by
  cases d with
  | zero => exact .error _
  | succ d =>
    have hsides : shape.Sides SameTypes env env := ⟨shape.congruent, env.shape_like, fun s => refl _⟩
    refine hsides.expr e h fun m _ => ?_
    cases m with
    | identifier n => exact fun f f' hf => hf.name n
    | ruleset n =>
      refine ⟨rfl, rfl, fun _ _ _ _ _ _ => .refl (fun rs => ?_) _⟩
      exact List.forall₂_same.2 fun r _ => shape.rule r

theorem unfinished_iff (h : SameTypes f f') (d : Nat) (rs : List DatapointRule) :
    rowRules (Compile.compileWithin env d f) rs = .error .unfinished ↔
      rowRules (Compile.compileWithin env d f') rs = .error .unfinished :=
  (shape.congruent.rowRules fun _ _ e _ => h.compileWithin d e).error_iff _

end Frame.SameTypes

def signatures : Nat → List (List ScalarType)
  | 0 => [[]]
  | n + 1 => ScalarType.all.flatMap fun t => (signatures n).map (t :: ·)

theorem length_signatures (n : Nat) : (signatures n).length = Nat.pow 6 n := by
  induction n with
  | zero => rfl
  | succ n ih =>
    simp only [signatures, List.length_flatMap, List.length_map, ih, ScalarType.all]
    simp only [List.map_cons, List.map_nil, List.sum_cons, List.sum_nil]
    change _ = Nat.pow 6 n * 6
    omega

theorem mem_signatures {n : Nat} {types : List ScalarType} (h : types.length = n) :
    types ∈ signatures n := by
  induction types generalizing n with
  | nil =>
    subst h
    exact List.mem_singleton_self _
  | cons t rest ih =>
    subst h
    refine List.mem_flatMap.2 ⟨t, ?_, List.mem_map_of_mem (ih rfl)⟩
    cases t <;> simp [ScalarType.all]

def signatureFrame (f : Frame) : List RuleVariable → List ScalarType → Frame
  | v :: vs, t :: ts =>
    signatureFrame ((v.visible, (v.visible, t)) :: f.filter (·.1 != v.visible)) vs ts
  | _, _ => f

theorem bindVariables_signature {domain : RulesetDomain} {source : Plan} {vars : List RuleVariable}
    {given : List String} {f f' inner : Frame} (hf : f.SameTypes f')
    (h : bindVariables domain source f vars given = .ok inner) :
    ∃ types, types.length = vars.length ∧ inner.SameTypes (signatureFrame f' vars types) := by
  induction vars generalizing f f' given with
  | nil =>
    cases h
    exact ⟨[], rfl, hf⟩
  | cons v rest ih =>
    obtain ⟨entry, he, h⟩ := ok_of_bind h
    have hvisible : entry.1 = v.visible := by
      unfold bindVariable at he
      split at he
      · cases he
      · split at he
        · cases he
        · cases he
          rfl
    have hframe : Frame.SameTypes (entry :: f.filter (·.1 != entry.1))
        ((v.visible, (v.visible, entry.2.2)) :: f'.filter (·.1 != v.visible)) := by
      rw [hvisible]
      exact .cons ⟨hvisible, rfl⟩ (hf.hide v.visible)
    obtain ⟨types, hlen, hinner⟩ := ih hframe h
    exact ⟨entry.2.2 :: types, by simp [hlen], hinner⟩

theorem rulesetFrame_signature {rs : DatapointRuleset} {source : Plan} {components : List String}
    {inner : Frame} (h : rulesetFrame rs source components = .ok inner) :
    ∃ types ∈ signatures rs.vars.length, inner.SameTypes (signatureFrame [] rs.vars types) := by
  unfold rulesetFrame at h
  split at h
  · cases h
  · obtain ⟨types, hlen, hinner⟩ := bindVariables_signature (.nil : Frame.SameTypes [] []) h
    exact ⟨types, mem_signatures hlen, hinner⟩

def rulesetCases : List (String × Binding) → List (DatapointRuleset × List ScalarType)
  | [] => []
  | (_, .datapointRuleset rs) :: rest => (signatures rs.vars.length).map (rs, ·) ++ rulesetCases rest
  | _ :: rest => rulesetCases rest

theorem length_rulesetCases (c : Context) : (rulesetCases c.entries).length + 1 = depthBound c := by
  unfold depthBound
  induction c.entries with
  | nil => rfl
  | cons e rest ih =>
    obtain ⟨n, b⟩ := e
    rw [List.foldr_cons, ← ih]
    cases b with
    | datapointRuleset rs =>
      simp only [rulesetCases, List.length_append, List.length_map, length_signatures, rulesetDepth]
      omega
    | _ => simp only [rulesetCases, rulesetDepth, Nat.zero_add]

theorem mem_rulesetCases {entries : List (String × Binding)} {n : String} {rs : DatapointRuleset}
    {types : List ScalarType} (hn : (n, .datapointRuleset rs) ∈ entries)
    (ht : types ∈ signatures rs.vars.length) : (rs, types) ∈ rulesetCases entries := by
  induction entries with
  | nil => cases hn
  | cons e rest ih =>
    obtain ⟨m, b⟩ := e
    rcases List.mem_cons.1 hn with heq | hn
    · cases heq
      exact List.mem_append_left _ (List.mem_map_of_mem ht)
    · have hm := ih hn
      cases b with
      | datapointRuleset rs' => exact List.mem_append_right _ hm
      | _ => exact hm

variable {env : Env}

/-- The rules do not finish compiling within the depth. -/
def Stalled (env : Env) (d : Nat) (x : DatapointRuleset × List ScalarType) : Prop :=
  rowRules (compileWithin env d (signatureFrame [] x.1.vars x.2)) x.1.rules = .error .unfinished

theorem rowRules_succ (env : Env) (d : Nat) (f : Frame) (rs : List DatapointRule) :
    rowRules (compileWithin env d f) rs = .error .unfinished ∨
      rowRules (compileWithin env d f) rs = rowRules (compileWithin env (d + 1) f) rs :=
  @Sequential.rowRules _ _ sequential_refines
    (fun i => cond i (compileWithin env (d + 1) f) (compileWithin env d f))
    (compileWithin_succ d f) rs

theorem Stalled.of_succ (env : Env) (d : Nat) (x : DatapointRuleset × List ScalarType)
    (h : Stalled env (d + 1) x) : Stalled env d x := by
  rcases rowRules_succ env d (signatureFrame [] x.1.vars x.2) x.1.rules with hd | hd
  · exact hd
  · exact hd.trans h

theorem mem_of_datapointRuleset {n : String} {rs : DatapointRuleset}
    (h : env.datapointRuleset n = .ok rs) : (n, .datapointRuleset rs) ∈ env.context.entries := by
  have hget := datapointRuleset_ok h
  obtain ⟨⟨m, b⟩, hfind, hb⟩ := Option.map_eq_some_iff.1 hget
  have hm := List.find?_some hfind
  simp only [beq_iff_eq] at hm hb
  subst hm hb
  exact List.mem_of_find?_eq_some hfind

/-- Where no case that is stalled finishes with one more step of depth, no further step of depth
    makes a difference. -/
theorem compileWithin_steady {d : Nat}
    (h : ∀ x ∈ rulesetCases env.context.entries, Stalled env d x → Stalled env (d + 1) x) :
    compileWithin env (d + 1) = compileWithin env (d + 2) := by
  funext f e
  refine expr_congr rfl e fun m _ => ?_
  cases m with
  | identifier n => exact fun _ => rfl
  | ruleset n =>
    refine ⟨rfl, rfl, fun rs hrs source components inner hinner => ?_⟩
    obtain ⟨types, ht, hsame⟩ := rulesetFrame_signature hinner
    rcases rowRules_succ env d inner rs.rules with hd | hd
    · have hstalled : Stalled env d (rs, types) := (hsame.unfinished_iff d _).1 hd
      have hnext := h _ (mem_rulesetCases (mem_of_datapointRuleset hrs) ht) hstalled
      exact hd.trans ((hsame.unfinished_iff (d + 1) _).2 hnext).symm
    · exact hd

/-- The allowed depth is enough for whatever finishes within any depth. -/
theorem compileWithin_depthBound : compileWithin env (depthBound env.context) = unbounded env := by
  -- A step of depth on which no stalled case finishes comes within as many steps as there are cases.
  obtain ⟨d, hd, hsteady⟩ := exists_steady (rulesetCases env.context.entries) (Stalled.of_succ env)
  have hbound := length_rulesetCases env.context
  have hfrom : ∀ k, compileWithin env (d + 1 + k) = compileWithin env (d + 1) := by
    intro k
    induction k with
    | zero => rfl
    | succ k ih =>
      have hone : compileWithin env (d + 2) = compileWithin env (d + 1) :=
        (compileWithin_steady hsteady).symm
      funext f e
      change expr env (compileWithin env (d + 1 + k)) f e = _
      rw [ih]
      exact congrFun (congrFun hone f) e
  obtain ⟨k, hk⟩ := Nat.exists_eq_add_of_le (show d + 1 ≤ depthBound env.context by omega)
  rw [hk]
  funext f e
  have hrefines : compileWithin env (d + 1 + k) f e = .error .unfinished ∨
    compileWithin env (d + 1 + k) f e = unbounded env f e := compileWithin_refines _ f e
  rcases hrefines with hn | hn
  · refine hn.trans (unbounded_eq_unfinished.2 fun j => ?_).symm
    by_contra hj
    have hle := compileWithin_of_le (Nat.le_add_left j (d + 1)) hj
    rw [hfrom j, ← hfrom k, hn] at hle
    exact hj hle.symm
  · exact hn

theorem compile_eq_unbounded (e : Expr) : compile env e = unbounded env [] e :=
  congrFun (congrFun compileWithin_depthBound []) e

/-- The bound refuses nothing: what the judgement accepts is accepted. -/
theorem compile_ok_iff {e : Expr} {c : Compiled} : compile env e = .ok c ↔ Compiles env [] e c := by
  rw [compile_eq_unbounded, unbounded_ok_iff]

end Tabular.Compile
