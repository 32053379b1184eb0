import Tabular.Proofs.Compile.Judgement

set_option autoImplicit false

namespace Tabular.Compile

theorem asPlan_ok {p : Position} {c : Compiled} {d : Plan} (h : asPlan p c = .ok d) :
    c = .dataset d := by
  cases c with
  | scalar e => cases h
  | dataset q => cases h; rfl

theorem asScalar_ok {p : Position} {c : Compiled} {s : Scalar} (h : asScalar p c = .ok s) :
    c = .scalar s := by
  cases c with
  | scalar e => cases h; rfl
  | dataset q => cases h

theorem ok_dataset_of_bind {x : Result Compiled} {p : Position} {d : Plan}
    (h : x >>= asPlan p = .ok d) : x = .ok (.dataset d) := by
  obtain ⟨c, hc, hd⟩ := ok_of_bind h
  rw [hc, asPlan_ok hd]

theorem ok_scalar_of_bind {x : Result Compiled} {p : Position} {s : Scalar}
    (h : x >>= asScalar p = .ok s) : x = .ok (.scalar s) := by
  obtain ⟨c, hc, hs⟩ := ok_of_bind h
  rw [hc, asScalar_ok hs]

theorem booleanRule_ok {compile : Expr → Result Compiled} {id : String} {e : Expr} {s : Scalar}
    (h : booleanRule compile id e = .ok s) :
    compile e = .ok (.scalar s) ∧ Typing.expect id s.type? .boolean = .ok () := by
  unfold booleanRule at h
  obtain ⟨c, hc, h⟩ := ok_of_bind h
  obtain ⟨t, ht, h⟩ := ok_of_bind h
  obtain ⟨_, hb, h⟩ := ok_of_bind h
  cases eq_of_pure_ok h
  exact ⟨by rw [hc, asScalar_ok ht], typing_ok (located_ok hb)⟩

theorem rowRules_ok {compile : Expr → Result Compiled} {rs : List DatapointRule}
    {compiled : List RowRule} (h : rowRules compile rs = .ok compiled) :
    ∃ bodies, Rules rs bodies compiled ∧
      ∀ e s, (e, s) ∈ bodies → compile e = .ok (.scalar s) := by
  induction rs generalizing compiled with
  | nil =>
    cases h
    exact ⟨[], .nil, fun _ _ hm => nomatch hm⟩
  | cons r rest ih =>
    obtain ⟨id, when?, e, code, level⟩ := r
    rw [rowRules] at h
    obtain ⟨a, ha, h⟩ := ok_of_bind h
    obtain ⟨s, hs, h⟩ := ok_of_bind h
    obtain ⟨others, ho, h⟩ := ok_of_bind h
    cases eq_of_pure_ok h
    obtain ⟨bodies, hr, hb⟩ := ih ho
    obtain ⟨hes, hts⟩ := booleanRule_ok hs
    cases when? with
    | none =>
      cases ha
      refine ⟨(e, s) :: bodies, .always hts hr, fun e' s' hm => ?_⟩
      rcases List.mem_cons.1 hm with he | hm
      · cases he
        exact hes
      · exact hb e' s' hm
    | some w =>
      obtain ⟨t, ht, h⟩ := ok_of_bind ha
      cases eq_of_pure_ok h
      obtain ⟨het, htt⟩ := booleanRule_ok ht
      refine ⟨(w, t) :: (e, s) :: bodies, .guarded htt hts hr, fun e' s' hm => ?_⟩
      rcases List.mem_cons.1 hm with he | hm
      · cases he
        exact het
      · rcases List.mem_cons.1 hm with he | hm
        · cases he
          exact hes
        · exact hb e' s' hm

section
variable {env : Env} {rules : RuleCompiler}

/-- What the rules of rulesets become has a derivation. Below it is a premise, so that the induction
    is on the expression alone; the induction on the depth discharges it. -/
def RulesCompile (env : Env) (rules : RuleCompiler) : Prop :=
  ∀ f e c, rules f e = .ok c → Compiles env f e c

mutual

theorem expr_compiles (hrules : RulesCompile env rules) {f : Frame} :
    ∀ {e : Expr} {c : Compiled}, expr env rules f e = .ok c → Compiles env f e c
  | .literal p v, c, h => by
    cases h
    exact .literal
  | .name p n, c, h => .name (located_ok h)
  | .unary p op e, c, h => by
    rw [expr] at h
    obtain ⟨a, ha, h⟩ := ok_of_bind h
    exact .unary (expr_compiles hrules ha) (located_ok h)
  | .binary p op l r, c, h => by
    rw [expr] at h
    obtain ⟨a, ha, h⟩ := ok_of_bind h
    obtain ⟨b, hb, h⟩ := ok_of_bind h
    exact .binary (expr_compiles hrules ha) (expr_compiles hrules hb) (located_ok h)
  | .conditional p t y n, c, h => by
    rw [expr] at h
    obtain ⟨test, ht, h⟩ := ok_of_bind h
    obtain ⟨yes, hy, h⟩ := ok_of_bind h
    obtain ⟨no, hn, h⟩ := ok_of_bind h
    exact .conditional (expr_compiles hrules (ok_scalar_of_bind ht))
      (expr_compiles hrules (ok_scalar_of_bind hy)) (expr_compiles hrules (ok_scalar_of_bind hn))
      (located_ok h)
  | .cast p e target, c, h => by
    rw [expr] at h
    obtain ⟨a, ha, h⟩ := ok_of_bind h
    exact .cast (expr_compiles hrules ha) (located_ok h)
  | .call p (.timeSeries fn) args, c, h => by
    rw [expr] at h
    cases h
  | .call p (.scalar fn) args, c, h => by
    rw [expr] at h
    obtain ⟨as, has, h⟩ := ok_of_bind h
    obtain ⟨hlen, hargs⟩ := List.forall₂_iff_zip.1 (exprs_compile hrules has)
    exact .call hlen (fun _ _ hm => hargs hm) (located_ok h)
  | .member p e set negated, c, h => by
    rw [expr] at h
    obtain ⟨a, ha, h⟩ := ok_of_bind h
    exact .member (expr_compiles hrules ha) (located_ok h)
  | .select p e component, c, h => by
    rw [expr] at h
    obtain ⟨source, hs, h⟩ := ok_of_bind h
    obtain ⟨plan, hp, h⟩ := ok_of_bind h
    cases eq_of_pure_ok h
    exact .select (expr_compiles hrules (ok_dataset_of_bind hs)) (located_ok hp)
  | .filter p e condition, c, h => by
    rw [expr] at h
    obtain ⟨source, hs, h⟩ := ok_of_bind h
    obtain ⟨s, hc, h⟩ := ok_of_bind h
    obtain ⟨_, ht, h⟩ := ok_of_bind h
    cases eq_of_pure_ok h
    exact .filter (expr_compiles hrules (ok_dataset_of_bind hs))
      (expr_compiles hrules (ok_scalar_of_bind hc)) (typing_ok (located_ok ht))
  | .keep p e names, c, h => by
    rw [expr] at h
    obtain ⟨source, hs, h⟩ := ok_of_bind h
    obtain ⟨plan, hp, h⟩ := ok_of_bind h
    cases eq_of_pure_ok h
    exact .keep (expr_compiles hrules (ok_dataset_of_bind hs)) (located_ok hp)
  | .drop p e names, c, h => by
    rw [expr] at h
    obtain ⟨source, hs, h⟩ := ok_of_bind h
    obtain ⟨plan, hp, h⟩ := ok_of_bind h
    cases eq_of_pure_ok h
    exact .drop (expr_compiles hrules (ok_dataset_of_bind hs)) (located_ok hp)
  | .rename p e pairs, c, h => by
    rw [expr] at h
    obtain ⟨source, hs, h⟩ := ok_of_bind h
    obtain ⟨plan, hp, h⟩ := ok_of_bind h
    cases eq_of_pure_ok h
    exact .rename (expr_compiles hrules (ok_dataset_of_bind hs)) (located_ok hp)
  | .calculate p e items, c, h => by
    rw [expr] at h
    obtain ⟨source, hs, h⟩ := ok_of_bind h
    obtain ⟨calculated, hi, h⟩ := ok_of_bind h
    obtain ⟨plan, hp, h⟩ := ok_of_bind h
    cases eq_of_pure_ok h
    obtain ⟨bodies, hitems, hbodies⟩ := calcItems_compile hrules hi
    exact .calculate (expr_compiles hrules (ok_dataset_of_bind hs)) hitems hbodies (located_ok hp)
  | .combine p op es, c, h => by
    rw [expr] at h
    split at h
    · rename_i hcount
      obtain ⟨plans, hps, h⟩ := ok_of_bind h
      obtain ⟨plan, hp, h⟩ := ok_of_bind h
      cases eq_of_pure_ok h
      obtain ⟨hlen, hes⟩ := List.forall₂_iff_zip.1 (planExprs_compile hrules hps)
      exact .combine hcount hlen (fun _ _ hm => hes hm) (located_ok hp)
    · cases h
  | .window p fn e extent, c, h => by
    rw [expr] at h
    obtain ⟨a, ha, h⟩ := ok_of_bind h
    cases a with
    | scalar s => cases h
    | dataset source =>
      obtain ⟨plan, hp, h⟩ := ok_of_bind h
      cases eq_of_pure_ok h
      exact .window (expr_compiles hrules ha) (located_ok hp)
  | .checkDatapoint p e ruleset components mode, c, h => by
    rw [expr] at h
    obtain ⟨source, hs, h⟩ := ok_of_bind h
    obtain ⟨rs, hrs, h⟩ := ok_of_bind h
    obtain ⟨inner, hf, h⟩ := ok_of_bind h
    obtain ⟨compiled, hr, h⟩ := ok_of_bind h
    obtain ⟨plan, hp, h⟩ := ok_of_bind h
    cases eq_of_pure_ok h
    obtain ⟨bodies, hrs', hb⟩ := rowRules_ok hr
    exact .checkDatapoint (expr_compiles hrules (ok_dataset_of_bind hs)) (located_ok hrs)
      (located_ok hf) hrs' (fun e s hm => hrules inner e _ (hb e s hm)) (located_ok hp)
  | .check p e code level imbalance invalid, c, h => by
    rw [expr] at h
    obtain ⟨condition, hs, h⟩ := ok_of_bind h
    obtain ⟨measure, hm, h⟩ := ok_of_bind h
    obtain ⟨other, ho, h⟩ := ok_of_bind h
    obtain ⟨type, ht, h⟩ := ok_of_bind h
    obtain ⟨c', hc, h⟩ := ok_of_bind h
    obtain ⟨l', hl, h⟩ := ok_of_bind h
    obtain ⟨plan, hp, h⟩ := ok_of_bind h
    cases eq_of_pure_ok h
    obtain ⟨hsome, hother⟩ := planExpr?_compiles hrules ho
    obtain ⟨hcode, hc'⟩ := optionalScalar_compiles hrules hc
    obtain ⟨hlevel, hl'⟩ := optionalScalar_compiles hrules hl
    exact .check (expr_compiles hrules (ok_dataset_of_bind hs)) (evaluation_ok (located_ok hm))
      hsome hother (located_ok ht) hcode hc' hlevel hl' (located_ok hp)
  | .checkHierarchy p e ruleset component validation input output, c, h => by
    rw [expr] at h
    obtain ⟨source, hs, h⟩ := ok_of_bind h
    obtain ⟨rs, hrs, h⟩ := ok_of_bind h
    obtain ⟨plan, hp, h⟩ := ok_of_bind h
    cases eq_of_pure_ok h
    exact .checkHierarchy (expr_compiles hrules (ok_dataset_of_bind hs)) (located_ok hrs)
      (located_ok hp)

theorem exprs_compile (hrules : RulesCompile env rules) {f : Frame} :
    ∀ {es : List Expr} {cs : List Compiled}, exprs env rules f es = .ok cs →
      List.Forall₂ (Compiles env f) es cs
  | [], cs, h => by
    cases h
    exact .nil
  | e :: rest, cs, h => by
    rw [exprs] at h
    obtain ⟨a, ha, h⟩ := ok_of_bind h
    obtain ⟨as, has, h⟩ := ok_of_bind h
    cases eq_of_pure_ok h
    exact .cons (expr_compiles hrules ha) (exprs_compile hrules has)

theorem planExprs_compile (hrules : RulesCompile env rules) {f : Frame} :
    ∀ {es : List Expr} {ps : List Plan}, planExprs env rules f es = .ok ps →
      List.Forall₂ (fun e p => Compiles env f e (.dataset p)) es ps
  | [], ps, h => by
    cases h
    exact .nil
  | e :: rest, ps, h => by
    rw [planExprs] at h
    obtain ⟨d, hd, h⟩ := ok_of_bind h
    obtain ⟨ds, hds, h⟩ := ok_of_bind h
    cases eq_of_pure_ok h
    exact .cons (expr_compiles hrules (ok_dataset_of_bind hd)) (planExprs_compile hrules hds)

theorem planExpr?_compiles (hrules : RulesCompile env rules) {f : Frame} :
    ∀ {e : Option Expr} {p : Option Plan}, planExpr? env rules f e = .ok p →
      e.isSome = p.isSome ∧
        ∀ i q, e = some i → p = some q → Compiles env f i (.dataset q)
  | none, p, h => by
    cases h
    exact ⟨rfl, fun _ _ hi => nomatch hi⟩
  | some e, p, h => by
    rw [planExpr?] at h
    obtain ⟨d, hd, h⟩ := ok_of_bind h
    cases eq_of_pure_ok h
    refine ⟨rfl, fun i q hi hq => ?_⟩
    cases hi
    cases hq
    exact expr_compiles hrules (ok_dataset_of_bind hd)

theorem optionalScalar_compiles (hrules : RulesCompile env rules) {f : Frame} {type : ScalarType} :
    ∀ {e : Option Expr} {s : Scalar}, optionalScalar env rules f type e = .ok s →
      (∀ i, e = some i → Compiles env f i (.scalar s)) ∧ OptionalScalar type e s
  | none, s, h => by
    cases h
    exact ⟨fun _ hi => (nomatch hi), fun _ => rfl, fun hi => nomatch hi⟩
  | some e, s, h => by
    rw [optionalScalar] at h
    obtain ⟨t, ht, h⟩ := ok_of_bind h
    obtain ⟨_, hty, h⟩ := ok_of_bind h
    cases eq_of_pure_ok h
    refine ⟨fun i hi => ?_, fun hi => (nomatch hi), fun _ => typing_ok (located_ok hty)⟩
    cases hi
    exact expr_compiles hrules (ok_scalar_of_bind ht)

theorem calcItems_compile (hrules : RulesCompile env rules) {source : Plan} :
    ∀ {n : Nat} {items : List CalcItem} {cs : List Calculated},
      calcItems env rules source n items = .ok cs → ∃ bodies, Items source n items bodies cs ∧
        ∀ e s, (e, s) ∈ bodies → Compiles env (Frame.ofSchema source.schema) e (.scalar s)
  | n, [], cs, h => by
    cases h
    exact ⟨[], .nil n, fun _ _ hm => nomatch hm⟩
  | n, .mk name role e :: rest, cs, h => by
    rw [calcItems.eq_def] at h
    obtain ⟨_, hn, h⟩ := ok_of_bind h
    split at h
    · split at h
      · obtain ⟨item, hi, h⟩ := ok_of_bind h
        obtain ⟨items, hr, h⟩ := ok_of_bind h
        cases eq_of_pure_ok h
        obtain ⟨bodies, hitems, hb⟩ := calcItems_compile hrules hr
        exact ⟨bodies, .window (located_ok hn) (located_ok hi) hitems, hb⟩
      · cases h
    · rename_i hplain
      obtain ⟨s, hs, h⟩ := ok_of_bind h
      obtain ⟨items, hr, h⟩ := ok_of_bind h
      cases eq_of_pure_ok h
      obtain ⟨bodies, hitems, hb⟩ := calcItems_compile hrules hr
      refine ⟨(e, s) :: bodies, .plain (located_ok hn) ?_ hitems, fun e' s' hm => ?_⟩
      · exact fun p fn operand extent he => hplain p fn operand extent he
      · rcases List.mem_cons.1 hm with he | hm
        · cases he
          exact expr_compiles hrules (ok_scalar_of_bind hs)
        · exact hb e' s' hm

end

end

theorem compileWithin_compiles {env : Env} {depth : Nat} {f : Frame} {e : Expr} {c : Compiled}
    (h : compileWithin env depth f e = .ok c) : Compiles env f e c := by
  induction depth generalizing f e c with
  | zero => cases h
  | succ depth ih => exact expr_compiles (fun _ _ _ hr => ih hr) h

theorem compile_compiles {env : Env} {e : Expr} {c : Compiled} (h : compile env e = .ok c) :
    Compiles env [] e c :=
  compileWithin_compiles h

end Tabular.Compile
