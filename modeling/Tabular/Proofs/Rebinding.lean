import Tabular.Proofs.Compile.Bound
import Tabular.Proofs.Structure
import Tabular.Session

set_option autoImplicit false

namespace Tabular

/-- What compilation sees of a binding. -/
def Binding.outline : Binding → Binding
  | .dataset d => .dataset (.empty d.schema)
  | b => b

theorem Binding.outline_eq {b b' : Option Binding}
    (h : b.map Binding.outline = b'.map Binding.outline) :
    b = b' ∨ ∃ d d', b = some (.dataset d) ∧ b' = some (.dataset d') ∧ d.schema = d'.schema := by
  cases b with
  | none =>
    cases b' with
    | none => exact .inl rfl
    | some _ => cases h
  | some b =>
    cases b' with
    | none => cases h
    | some b' =>
      have h := Option.some.inj h
      cases b with
      | dataset d =>
        cases b' with
        | dataset d' =>
          injection h with h
          injection h with h
          exact .inr ⟨d, d', rfl, rfl, h⟩
        | _ => cases h
      | _ =>
        cases b' with
        | dataset d' => cases h
        | _ => exact .inl (congrArg some h)

namespace Context

variable {c c' : Context} {n : String}

/-- The two contexts bind the name alike, up to the rows of a dataset, or neither binds it. -/
def SameOutline (c c' : Context) (n : String) : Prop :=
  (c.get? n).map Binding.outline = (c'.get? n).map Binding.outline

def rebind (c : Context) (ds : List (String × Dataset)) : Context :=
  ds.foldl (fun c p => c.set p.1 (.dataset p.2)) c

/-- A dataset of the structure of the one that the name is bound to. -/
def Fits (c : Context) (p : String × Dataset) : Prop :=
  (c.get? p.1).map Binding.outline = some (.dataset (.empty p.2.schema))

theorem Fits.sameOutline_set {p : String × Dataset} (h : c.Fits p) (n : String) :
    c.SameOutline (c.set p.1 (.dataset p.2)) n := by
  by_cases hn : n = p.1
  · subst hn
    rw [SameOutline, get?_set_self]
    exact h
  · rw [SameOutline, get?_set_of_ne c _ hn]

theorem sameOutline_rebind {ds : List (String × Dataset)} (h : ∀ p ∈ ds, c.Fits p) (n : String) :
    c.SameOutline (c.rebind ds) n := by
  induction ds generalizing c with
  | nil => rfl
  | cons p rest ih =>
    obtain ⟨hp, hrest⟩ := List.forall_mem_cons.1 h
    refine (hp.sameOutline_set n).trans (ih fun q hq => ?_)
    exact (hp.sameOutline_set q.1).symm.trans (hrest q hq)

end Context

namespace Compile

variable {c c' : Context} {config : Config} {n : String}

theorem name_of_sameOutline (h : c.SameOutline c' n) (f : Frame) :
    Env.name ⟨c, config⟩ f n = Env.name ⟨c', config⟩ f n := by
  unfold Env.name
  dsimp only
  rcases Binding.outline_eq h with heq | ⟨d, d', hd, hd', hs⟩
  · rw [heq]
  · rw [hd, hd']
    dsimp only
    rw [hs]

theorem datapointRuleset_of_sameOutline (h : c.SameOutline c' n) :
    Env.datapointRuleset ⟨c, config⟩ n = Env.datapointRuleset ⟨c', config⟩ n := by
  unfold Env.datapointRuleset
  dsimp only
  rcases Binding.outline_eq h with heq | ⟨d, d', hd, hd', _⟩
  · rw [heq]
  · rw [hd, hd']
    rfl

theorem hierarchicalRuleset_of_sameOutline (h : c.SameOutline c' n) :
    Env.hierarchicalRuleset ⟨c, config⟩ n = Env.hierarchicalRuleset ⟨c', config⟩ n := by
  unfold Env.hierarchicalRuleset
  dsimp only
  rcases Binding.outline_eq h with heq | ⟨d, d', hd, hd', _⟩
  · rw [heq]
  · rw [hd, hd']
    rfl

theorem compileWithin_congr {e : Expr} (h : ∀ m, Reaches c e m → c.SameOutline c' m.name)
    (d : Nat) (f : Frame) :
    compileWithin ⟨c, config⟩ d f e = compileWithin ⟨c', config⟩ d f e := by
  induction d generalizing f e with
  | zero => rfl
  | succ d ih =>
    have hconfig : (⟨c, config⟩ : Env).config = (⟨c', config⟩ : Env).config := rfl
    refine expr_congr hconfig e fun m hm => ?_
    have hsame := h m (.here hm)
    cases m with
    | identifier n => exact name_of_sameOutline hsame
    | ruleset n =>
      refine ⟨hierarchicalRuleset_of_sameOutline hsame, datapointRuleset_of_sameOutline hsame, ?_⟩
      intro rs hrs _ _ inner _
      refine rowRules_congr fun r hr i hi => ih (fun m hm' => h m ?_) inner
      exact .rule hm (datapointRuleset_ok hrs) hr hi hm'

/-- The outcome depends on the outlines of what the expression reaches. -/
theorem compile_congr {e : Expr} (h : ∀ m, Reaches c e m → c.SameOutline c' m.name) :
    compile ⟨c, config⟩ e = compile ⟨c', config⟩ e := by
  rw [compile_eq_unbounded, compile_eq_unbounded]
  exact unbounded_congr fun d => compileWithin_congr h d []

def resolve (config : Config) (early late : Context) (today : Date) (e : Expr) :
    Except SessionError Binding :=
  match compile ⟨early, config⟩ e with
  | .error e => .error (.compile e)
  | .ok p =>
    match Session.bindingOf late today p with
    | .error e => .error (.evaluation e)
    | .ok b => .ok b

theorem resolve_dataset_iff {e : Expr} {today : Date} {d : Dataset} :
    resolve config c c' today e = .ok (.dataset d) ↔
      ∃ p, compile ⟨c, config⟩ e = .ok (.dataset p) ∧ p.eval c' today = .ok d := by
  unfold resolve
  cases compile ⟨c, config⟩ e with
  | error e => exact ⟨nofun, nofun⟩
  | ok a =>
    cases a with
    | scalar s =>
      dsimp only [Session.bindingOf]
      cases s.eval (c'.scope today) with
      | error e => exact ⟨nofun, nofun⟩
      | ok v => exact ⟨nofun, nofun⟩
    | dataset p =>
      dsimp only [Session.bindingOf]
      constructor
      · intro h
        refine ⟨p, rfl, ?_⟩
        cases hp : p.eval c' today with
        | error e =>
          rw [hp] at h
          cases h
        | ok t =>
          rw [hp] at h
          cases h
          rfl
      · rintro ⟨_, ⟨⟩, h⟩
        rw [h]
        rfl

/-- Contexts that differ in the rows of datasets only compile an expression to the same, and what
    was compiled in the one gives in the other what compiling it afresh gives. -/
theorem compile_of_sameOutline (h : ∀ n, c.SameOutline c' n) (config : Config) (e : Expr) :
    compile ⟨c, config⟩ e = compile ⟨c', config⟩ e ∧
      ∀ today, resolve config c c' today e = resolve config c' c' today e := by
  have hc : compile ⟨c, config⟩ e = compile ⟨c', config⟩ e := compile_congr fun m _ => h m.name
  refine ⟨hc, fun today => ?_⟩
  unfold resolve
  rw [hc]

def limited : Context :=
  ⟨[("D", .dataset tally), ("limit", .scalar (some .integer) (.integer 6)),
    ("low", .datapointRuleset ⟨"low", .components, [⟨"m", none⟩],
      [⟨"low_1", none, .binary {} (.compare .lt) (.name {} "m") (.name {} "limit"), none, none⟩]⟩)]⟩

def limitedLater : Context :=
  limited.rebind [("D", ⟨tally.schema,
    [[.integer 4, .integer 1], [.integer 3, .integer 9], [.integer 1, .integer 6]]⟩)]

def limitedCheck : Expr :=
  .checkDatapoint {}
    (.filter {} (.name {} "D") (.binary {} (.compare .le) (.name {} "m")
      (.binary {} (.arithmetic .add) (.name {} "limit") (.literal {} (.integer 1)))))
    "low" [] .invalid

set_option maxRecDepth 4000 in
theorem compile_of_sameOutline_limited :
    (∃ d, resolve {} limited limited .epoch limitedCheck = .ok (.dataset d) ∧
      d.rows = [[.integer 2, .string "low_1", .integer 7, .null, .null]]) ∧
    (∃ d, resolve {} limited limitedLater .epoch limitedCheck = .ok (.dataset d) ∧
      d.rows = [[.integer 1, .string "low_1", .integer 6, .null, .null]]) ∧
    compile ⟨limited, {}⟩ limitedCheck = compile ⟨limitedLater, {}⟩ limitedCheck ∧
    ∀ today, resolve {} limited limitedLater today limitedCheck =
      resolve {} limitedLater limitedLater today limitedCheck := by
  refine ⟨⟨_, rfl, rfl⟩, ⟨_, rfl, rfl⟩, ?_⟩
  refine compile_of_sameOutline (fun n => ?_) {} limitedCheck
  refine Context.sameOutline_rebind (fun p hp => ?_) n
  cases List.mem_singleton.1 hp
  rfl

end Compile
end Tabular
