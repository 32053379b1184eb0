import Mathlib.Logic.Relation
import Tabular.Proofs.Compile.Parts
import Tabular.Proofs.Safety.Plans

set_option autoImplicit false

/-!
# What compiles is safe

Of a dataset expression that compiles in a well-formed context, the evaluation in this context gives
a dataset of the planned structure whose rows conform, or one of the failures that data can cause.
Some things are not looked at when an expression compiles. They are asked for here of the expression
and of everything that is compiled on its behalf.
-/
namespace Tabular

/-- Data have the declared types and distinct keys, and the rules of a ruleset distinct ids. -/
def Binding.WellFormed : Binding → Prop
  | .scalar type v => v.Fits type
  | .dataset d => d.Conforms ∧ d.Distinct
  | .datapointRuleset rs => (rs.rules.map (·.id)).Nodup
  | .hierarchicalRuleset rs => (rs.rules.map (·.id)).Nodup

def Context.WellFormed (c : Context) : Prop := ∀ n b, c.get? n = some b → b.WellFormed

namespace Context.WellFormed

variable {c : Context}

theorem distinct (h : c.WellFormed) : c.Distinct := fun n d hn => (h n (.dataset d) hn).2

theorem idsDistinct (h : c.WellFormed) : c.IdsDistinct := by
  intro n b hn
  have hb := h n b hn
  cases b with
  | scalar _ _ => trivial
  | dataset _ => trivial
  | datapointRuleset _ => exact hb
  | hierarchicalRuleset _ => exact hb

end Context.WellFormed

namespace Compile

variable {env : Env} {today : Date} {f : Frame}

/-- Integers and numbers do not meet in a choice for nulls. The imbalance of a check has the keys of
    its condition. No measure has a name that a report takes. A rule component that a report keeps
    is a string. -/
def Admissible (env : Env) : Frame × Expr → Prop
  | (f, .call _ (.scalar fn) args) => fn = .nvl → ∀ as, args.length = as.length →
      (∀ e a, (e, a) ∈ args.zip as → Compiles env f e a) →
      ∀ types ∈ operandTypes as, ¬ (some .integer ∈ types ∧ some .number ∈ types)
  | (f, .check _ e _ _ imbalance _) => ∀ i, imbalance = some i → ∀ condition other,
      Compiles env f e (.dataset condition) → Compiles env f i (.dataset other) →
      ∀ n ∈ condition.schema.identifierNames, n ∈ other.schema.names
  | (f, .checkDatapoint _ e _ _ _) => ∀ source, Compiles env f e (.dataset source) →
      ∀ m ∈ source.schema.measures, m.name ∉ DatapointCheck.reservedNames
  | (f, .checkHierarchy _ e ruleset given _ _ _) => env.config.keepRuleComponent = true →
      ∀ source rs component i, Compiles env f e (.dataset source) →
      env.hierarchicalRuleset ruleset = .ok rs →
      ruleComponent rs source.schema given = .ok component →
      source.schema.get? component = some i → i.type = .string
  | _ => True

/-- No scratch column of a calculation hides what its items read. -/
def Sighted (env : Env) : Frame × Expr → Prop
  | (f, .calculate _ e items) => ∀ source bodies calculated, Compiles env f e (.dataset source) →
      Items source 0 items bodies calculated →
      (∀ i s, (i, s) ∈ bodies → Compiles env (Frame.ofSchema source.schema) i (.scalar s)) →
      Unhidden source bodies calculated
  | _ => True

/-- The property holds of an expression and of everything that is compiled on its behalf. -/
def Everywhere (env : Env) (P : Frame × Expr → Prop) (x : Frame × Expr) : Prop :=
  ∀ y, Relation.ReflTransGen (Begins env) x y → P y

namespace Everywhere

variable {P Q : Frame × Expr → Prop} {x y : Frame × Expr}

theorem self (h : Everywhere env P x) : P x := h x .refl

theorem part (h : Everywhere env P x) (hb : Begins env x y) : Everywhere env P y :=
  fun z hz => h z (.head hb hz)

theorem of_parts (hx : P x) (h : ∀ y, Begins env x y → Everywhere env P y) :
    Everywhere env P x := by
  intro y hy
  rcases hy.cases_head with rfl | ⟨z, hz, hy⟩
  · exact hx
  · exact h z hz y hy

theorem and (hp : Everywhere env P x) (hq : Everywhere env Q x) :
    Everywhere env (fun y => P y ∧ Q y) x :=
  fun y hy => ⟨hp y hy, hq y hy⟩

theorem name {p : Position} {n : String} (hx : P (f, .name p n)) :
    Everywhere env P (f, .name p n) := by
  refine of_parts hx fun y hy => ?_
  cases hy with
  | first h => cases h

theorem calculate {p : Position} {e : Expr} {items : List CalcItem}
    (hx : P (f, .calculate p e items)) (he : Everywhere env P (f, e))
    (hi : ∀ source i, Reached (ItemDone env source) (ItemPart source) items i →
      Everywhere env P (Frame.ofSchema source.schema, i)) :
    Everywhere env P (f, .calculate p e items) := by
  refine of_parts hx fun y hy => ?_
  cases hy with
  | first h =>
    cases h
    exact he
  | item _ h => exact hi _ _ h

end Everywhere

theorem reached_of_mem {α β : Type} {Done : α → Prop} {Part : α → β → Prop} {x : α} {xs : List α}
    {b : β} (hx : x ∈ xs) (hd : ∀ y ∈ xs, Done y) (hp : Part x b) : Reached Done Part xs b := by
  induction xs with
  | nil => cases hx
  | cons y ys ih =>
    obtain ⟨hy, hys⟩ := List.forall_mem_cons.1 hd
    rcases List.mem_cons.1 hx with rfl | hx
    · exact .here hp
    · exact .later hy (ih hx hys)

theorem reached_of_zip {α β : Type} {Done : α → β → Prop} {xs : List α} {ys : List β}
    (hlen : xs.length = ys.length) (hd : ∀ x y, (x, y) ∈ xs.zip ys → Done x y) {x : α} {y : β}
    (hz : (x, y) ∈ xs.zip ys) : Reached (fun x => ∃ y, Done x y) Eq xs x := by
  refine reached_of_mem (List.of_mem_zip hz).1 (fun z hz => ?_) rfl
  obtain ⟨i, hi, rfl⟩ := List.getElem_of_mem hz
  refine ⟨ys[i], hd _ _ ?_⟩
  rw [← List.getElem_zip (h := by simp [hi, ← hlen])]
  exact List.getElem_mem _

theorem Items.reached {source : Plan} {n : Nat} {items : List CalcItem}
    {bodies : List (Expr × Scalar)} {calculated : List Calculated}
    (h : Items source n items bodies calculated)
    (hb : ∀ e s, (e, s) ∈ bodies → Compiles env (Frame.ofSchema source.schema) e (.scalar s))
    {e : Expr} {s : Scalar} (he : (e, s) ∈ bodies) :
    Reached (ItemDone env source) (ItemPart source) items e := by
  induction h with
  | nil => cases he
  | window hname hitem _ ih =>
    exact .later ⟨hname, .inl ⟨_, _, _, _, _, _, _, rfl, hitem⟩⟩ (ih hb he)
  | plain hname hplain _ ih =>
    rcases List.mem_cons.1 he with heq | he
    · cases heq
      exact .here ⟨hname, hplain, rfl⟩
    · refine .later ⟨hname, .inr ⟨hplain, _, hb _ _ (List.mem_cons_self ..)⟩⟩ ?_
      exact ih (fun i t hi => hb i t (List.mem_cons_of_mem _ hi)) he

theorem Rules.reached {inner : Frame} {rs : List DatapointRule} {bodies : List (Expr × Scalar)}
    {rules : List RowRule} (h : Rules rs bodies rules)
    (hb : ∀ e s, (e, s) ∈ bodies → Compiles env inner e (.scalar s)) {e : Expr} {s : Scalar}
    (he : (e, s) ∈ bodies) : Reached (RuleDone env inner) (RulePart env inner) rs e := by
  induction h with
  | nil => cases he
  | always ht _ ih =>
    rcases List.mem_cons.1 he with heq | he
    · cases heq
      exact .here (.inr ⟨nofun, rfl⟩)
    · refine .later ⟨nofun, _, hb _ _ (List.mem_cons_self ..), ht⟩ ?_
      exact ih (fun i t hi => hb i t (List.mem_cons_of_mem _ hi)) he
  | @guarded id a e' t s' code level rest bodies rules ha ht _ ih =>
    have hdone : AntecedentDone env inner ⟨id, some a, e', code, level⟩ := by
      intro b hab
      cases hab
      exact ⟨t, hb _ _ (List.mem_cons_self ..), ha⟩
    rcases List.mem_cons.1 he with heq | he
    · cases heq
      exact .here (.inl rfl)
    · rcases List.mem_cons.1 he with heq | he
      · cases heq
        exact .here (.inr ⟨hdone, rfl⟩)
      · have htruth : Truth env inner id e' :=
          ⟨s', hb _ _ (List.mem_cons_of_mem _ (List.mem_cons_self ..)), ht⟩
        refine .later ⟨hdone, htruth⟩ ?_
        exact ih (fun i t hi => hb i t (List.mem_cons_of_mem _ (List.mem_cons_of_mem _ hi))) he

theorem sound_name (hw : env.context.WellFormed) {n : String} {c : Compiled}
    (h : env.name f n = .ok c) : c.Sound env.context today f := by
  rcases name_ok h with ⟨component, type, hn, rfl⟩ | ⟨type, v, hb, rfl⟩ | ⟨d, hb, rfl⟩
  · exact .read ⟨n, hn⟩
  · exact .literal (hw n _ hb)
  · intro _
    rw [Plan.eval_named hb]
    exact (hw n _ hb).1

theorem Compiles.delivers {e : Expr} {p : Plan} (h : Compiles env [] e (.dataset p))
    (hw : env.context.WellFormed) (hs : (Compiled.dataset p).Sound env.context today []) :
    p.Delivers env.context today :=
  (hs rfl).imp fun d hd hc =>
    ⟨h.agrees today d hd, h.distinct hw.distinct hw.idsDistinct today d hd, hc⟩

/-- One case for each node. A plan is evaluated where no names are given, and so are the plans it
    is made of; the scalars in it are typed by the structure of their source. -/
theorem Compiles.sound {e : Expr} {c : Compiled} (h : Compiles env f e c)
    (hw : env.context.WellFormed)
    (hp : Everywhere env (fun y => Admissible env y ∧ Sighted env y) (f, e)) (today : Date) :
    c.Sound env.context today f := by
  induction h with
  | literal => exact .literal (Value.fits_type? _)
  | name h => exact sound_name hw h
  | unary he h ih =>
    refine sound_lift h (fun types ht o ho => ?_) ?_ ?_
    · exact unaryBuilder_sound (length_of_mem_operandTypes ht) ho
    · exact List.forall_mem_singleton.2 (he.agrees today)
    · exact List.forall_mem_singleton.2 (ih (hp.part (.first rfl)))
  | binary hl hr h ihl ihr =>
    refine sound_binary h ?_ ?_
    · exact List.forall_mem_cons.2 ⟨hl.agrees today, List.forall_mem_singleton.2 (hr.agrees today)⟩
    · refine List.forall_mem_cons.2 ⟨ihl (hp.part (.first rfl)), ?_⟩
      exact List.forall_mem_singleton.2 (ihr (hp.part (.right hl)))
  | conditional ht hy _ h iht ihy ihn =>
    have hyes := ihy (hp.part (.yes ht))
    exact sound_conditional h (iht (hp.part (.first rfl))) hyes (ihn (hp.part (.no ht hy)))
  | cast he h ih =>
    refine sound_lift h (fun types _ o ho => castBuilder_sound ho) ?_ ?_
    · exact List.forall_mem_singleton.2 (he.agrees today)
    · exact List.forall_mem_singleton.2 (ih (hp.part (.first rfl)))
  | call hlen hargs h ih =>
    refine sound_lift h (fun types ht o ho => ?_) (fun a ha => ?_) (fun a ha => ?_)
    · exact Operation.operation_sound ho fun hf => hp.self.1 hf _ hlen hargs types ht
    · obtain ⟨e, hz⟩ := exists_mem_zip hlen ha
      exact (hargs e a hz).agrees today
    · obtain ⟨e, hz⟩ := exists_mem_zip hlen ha
      exact ih e a hz (hp.part (.argument (reached_of_zip hlen hargs hz)))
  | member he h ih =>
    refine sound_lift h (fun types ht o ho => ?_) ?_ ?_
    · exact memberBuilder_sound (length_of_mem_operandTypes ht) ho
    · exact List.forall_mem_singleton.2 (he.agrees today)
    · exact List.forall_mem_singleton.2 (ih (hp.part (.first rfl)))
  | select he h ih =>
    obtain ⟨s, hs, rfl⟩ := selectPlan_ok h
    rintro rfl
    exact safe_projectPlan (he.delivers hw (ih (hp.part (.first rfl)))) hs
  | filter he hc _ ih ihc =>
    rintro rfl
    refine safe_filterPlan (he.delivers hw (ih (hp.part (.first rfl)))) ?_
    have htyped := ihc (hp.part (.condition he))
    exact Scalar.Typed.imp htyped fun _ _ => Frame.declares_of_ofSchema
  | keep he h ih =>
    obtain ⟨s, hs, rfl⟩ := projectPlan_ok h
    rintro rfl
    exact safe_projectPlan (he.delivers hw (ih (hp.part (.first rfl)))) hs
  | drop he h ih =>
    obtain ⟨s, hs, rfl⟩ := projectPlan_ok h
    rintro rfl
    exact safe_projectPlan (he.delivers hw (ih (hp.part (.first rfl)))) hs
  | rename he h ih =>
    obtain ⟨s, hs, rfl⟩ := renamePlan_ok h
    rintro rfl
    exact safe_renamePlan (he.delivers hw (ih (hp.part (.first rfl)))) hs
  | calculate he hitems hbodies h ih ihb =>
    rintro rfl
    have hseen := hp.self.2 _ _ _ he hitems hbodies
    refine safe_calculatePlan (he.delivers hw (ih (hp.part (.first rfl)))) hitems ?_ hseen h
    rintro ⟨i, s⟩ hb
    have htyped := ihb i s hb (hp.part (.item he (hitems.reached hbodies hb)))
    exact Scalar.Typed.imp htyped fun _ _ => Frame.declares_of_ofSchema
  | combine hcount hlen hes h ih =>
    rintro rfl
    refine safe_combinePlan (fun p hm => ?_) h
    obtain ⟨e, hz⟩ := exists_mem_zip hlen hm
    have hreached := reached_of_zip hlen hes hz
    exact (hes e p hz).delivers hw (ih e p hz (hp.part (.operand hcount hreached)))
  | window he h ih =>
    rintro rfl
    exact safe_windowPlan (he.delivers hw (ih (hp.part (.first rfl)))) h
  | checkDatapoint he hrs hframe hrules hbodies h ih ihb =>
    rintro rfl
    refine safe_checkDatapointPlan (he.delivers hw (ih (hp.part (.first rfl))))
      (hp.self.1 _ he) ?_ h
    refine hrules.typed ?_
    rintro ⟨i, s⟩ hb
    have htyped := ihb i s hb (hp.part (.rule he hrs hframe (hrules.reached hbodies hb)))
    exact Scalar.Typed.imp htyped fun _ _ => rulesetFrame_declares hframe
  | check he hmeasure hsome hother htype hcode hc hlevel hl h ih iho ihc ihl =>
    rintro rfl
    have hdone : CheckDone env [] _ _ := ⟨_, _, _, _, he, hmeasure, hsome, hother, htype⟩
    refine safe_checkPlan (he.delivers hw (ih (hp.part (.first rfl)))) hmeasure (fun q hq => ?_)
      htype (hc.gives fun i hi => ?_) (hl.gives fun i hi => ?_) h
    · obtain ⟨i, hi⟩ := Option.isSome_iff_exists.1 (hsome.trans (by rw [hq]; rfl))
      have hi' := hother i q hi hq
      subst hi
      refine ⟨hi'.delivers hw (iho i q rfl hq (hp.part (.imbalance he hmeasure))), ?_⟩
      exact hp.self.1 i rfl _ _ he hi'
    · subst hi
      have htyped := ihc i rfl (hp.part (.code hdone))
      exact Scalar.Typed.imp htyped fun n t hn => absurd hn (Frame.not_provides_nil n t)
    · subst hi
      have htyped := ihl i rfl (hp.part (.level hdone hcode hc))
      exact Scalar.Typed.imp htyped fun n t hn => absurd hn (Frame.not_provides_nil n t)
  | checkHierarchy he hrs h ih =>
    rintro rfl
    refine safe_checkHierarchyPlan (he.delivers hw (ih (hp.part (.first rfl)))) ?_ h
    intro hkeep component i hcomp hi
    exact hp.self.1 hkeep _ _ component i he hrs hcomp hi

/-- A dataset expression that compiles in a well-formed context has, in this context, a result of
    the planned structure with rows that conform, or fails in one of the ways that depend on the
    data. -/
theorem safe_of_compile {env : Env} {e : Expr} {p : Plan} (hw : env.context.WellFormed)
    (h : compile env e = .ok (.dataset p)) (ha : Everywhere env (Admissible env) ([], e))
    (hs : Everywhere env (Sighted env) ([], e)) (today : Date) :
    Safe (fun d => d.schema = p.schema ∧ d.Conforms) (p.eval env.context today) := by
  have hc := compile_compiles h
  have hd := hc.delivers hw (hc.sound hw (ha.and hs) today)
  exact hd.imp fun d _ hd => ⟨hd.1, hd.2.2⟩

def tallyCopy : Expr :=
  .calculate {} (.name {} "D")
    [.mk "s" none (.window {} .sum (.name {} "m") {}), .mk "t" none (.name {} "m")]

def tallyEnv : Env := ⟨⟨[("D", .dataset tally)]⟩, {}⟩

theorem wellFormed_of_entries {c : Context} (h : ∀ p ∈ c.entries, p.2.WellFormed) :
    c.WellFormed := by
  intro n b hb
  obtain ⟨p, hp, rfl⟩ := Option.map_eq_some_iff.1 hb
  exact h p (List.mem_of_find?_eq_some hp)

theorem wellFormed_singleton {n : String} {d : Dataset} (hc : d.Conforms) (hd : d.Distinct) :
    Context.WellFormed ⟨[(n, .dataset d)]⟩ := by
  refine wellFormed_of_entries fun p hp => ?_
  cases List.mem_singleton.1 hp
  exact ⟨hc, hd⟩

theorem everywhere_tallyCopy {P : Frame × Expr → Prop} (hx : P ([], tallyCopy))
    (hn : ∀ f n, P (f, .name {} n)) : Everywhere tallyEnv P ([], tallyCopy) := by
  refine .calculate hx (.name (hn _ _)) fun source i h => ?_
  cases h with
  | here h => exact absurd rfl (h.2.1 _ _ _ _)
  | later _ h =>
    cases h with
    | here h =>
      obtain ⟨_, _, rfl⟩ := h
      exact .name (hn _ _)
    | later _ h => cases h

theorem sighted_tallyCopy : Sighted tallyEnv ([], tallyCopy) := by
  intro source bodies calculated he hitems hbodies
  refine hitems.unhidden fun b hb m t hr k => ?_
  cases he with
  | name he =>
    cases he
    cases hitems with
    | plain _ hplain _ => exact absurd rfl (hplain _ _ _ _)
    | window _ _ hrest =>
      cases hrest with
      | plain _ _ hrest =>
        cases hrest
        cases List.mem_singleton.1 hb
        cases hbodies _ _ hb with
        | name hs =>
          cases hs
          cases hr
          exact scratchName_ne (by decide) k

theorem safe_of_compile_tallyCopy :
    ∃ p d, compile tallyEnv tallyCopy = .ok (.dataset p) ∧
      p.eval tallyEnv.context .epoch = .ok d ∧ d.schema.names = ["k", "m", "s", "t"] ∧
      d.schema = p.schema ∧ d.Conforms := by
  refine ⟨_, _, rfl, rfl, rfl, ?_⟩
  have hw : tallyEnv.context.WellFormed := by
    refine wellFormed_singleton ?_ ?_
    · unfold Dataset.Conforms Schema.Admits Conform
      decide
    · unfold Dataset.Distinct
      decide
  have ha := everywhere_tallyCopy (P := Admissible tallyEnv) trivial fun _ _ => trivial
  have hs := everywhere_tallyCopy sighted_tallyCopy fun _ _ => trivial
  exact (safe_of_compile hw rfl ha hs .epoch).of_ok rfl

def shadow : Dataset where
  schema :=
    ⟨[.identifier "k" .integer, .measure "$analytic_0" .string, .measure "m" .integer],
      by decide, by decide⟩
  rows := [[.integer 1, .string "a", .integer 5]]

def shadowCalc : Expr :=
  .calculate {} (.name {} "Q")
    [.mk "z" none (.call {} (.scalar .upper) [.name {} "$analytic_0"]),
      .mk "y" none (.window {} .sum (.name {} "m") {})]

def shadowEnv : Env := ⟨⟨[("Q", .dataset shadow)]⟩, {}⟩

/-- The item in upper case is given the sum instead of the text it was compiled for. -/
theorem unexpected_shadowCalc :
    shadowEnv.context.WellFormed ∧ Everywhere shadowEnv (Admissible shadowEnv) ([], shadowCalc) ∧
      ∃ p, compile shadowEnv shadowCalc = .ok (.dataset p) ∧
        p.eval shadowEnv.context .epoch = .error (.unexpectedValue .string "5") := by
  refine ⟨wellFormed_singleton ?_ ?_, ?_, _, rfl, rfl⟩
  · unfold Dataset.Conforms Schema.Admits Conform
    decide
  · unfold Dataset.Distinct
    decide
  · refine .calculate trivial (.name trivial) fun source i h => ?_
    cases h with
    | here h =>
      obtain ⟨_, _, rfl⟩ := h
      refine .of_parts nofun fun y hy => ?_
      cases hy with
      | first h => cases h
      | argument h =>
        cases h with
        | here h =>
          cases h
          exact .name trivial
        | later _ h => cases h
    | later _ h =>
      cases h with
      | here h => exact absurd rfl (h.2.1 _ _ _ _)
      | later _ h => cases h

end Compile
end Tabular
