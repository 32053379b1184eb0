import Tabular.Proofs.Lifting.Slot
import Tabular.Proofs.Rebinding
import Tabular.Proofs.Safety.Values

set_option autoImplicit false

namespace Tabular

namespace Scalar

theorem combine_and {x y : Value} (h : x.boolean? ≠ some false) :
    (combine false x y).boolean? = some true ↔
      x.boolean? = some true ∧ y.boolean? = some true := by
  unfold combine
  cases hx : x.boolean? with
  | none =>
    cases y.boolean? with
    | none => exact ⟨nofun, nofun⟩
    | some q => cases q <;> exact ⟨nofun, nofun⟩
  | some p =>
    cases p with
    | false => exact absurd hx h
    | true =>
      cases y.boolean? with
      | none => exact ⟨nofun, nofun⟩
      | some q => cases q <;> simp [Value.boolean?]

/-- How a conjunction comes by its value: its left operand is false, or both have values. -/
theorem eval_and_ok {s : Scope} {a b : Scalar} {v : Value}
    (h : (Scalar.shortCircuit false a b).eval s = .ok v) :
    ∃ x, a.eval s = .ok x ∧ (x.boolean? = some false ∧ v = .boolean false ∨
      x.boolean? ≠ some false ∧ ∃ y, b.eval s = .ok y ∧ v = combine false x y) := by
  rw [eval] at h
  obtain ⟨x, hx, h⟩ := ok_of_bind h
  refine ⟨x, hx, ?_⟩
  split at h
  · rename_i hfalse
    exact .inl ⟨hfalse, (eq_of_pure_ok h).symm⟩
  · rename_i hopen
    obtain ⟨y, hy, h⟩ := ok_of_bind h
    exact .inr ⟨hopen, y, hy, (eq_of_pure_ok h).symm⟩

end Scalar

namespace Dataset

variable {s : Schema} {a b : Scalar} {outer : Scope}

theorem filterRows_cons {r : Row} {v : Value} (hv : a.eval (Scope.ofRow s r outer) = .ok v)
    (rest : List Row) :
    filterRows s a outer (r :: rest) = (filterRows s a outer rest).map fun kept =>
      if v.boolean? = some true then r :: kept else kept := by
  rw [filterRows, hv]
  cases filterRows s a outer rest <;> rfl

/-- The rows that a conjunction keeps are kept by its operands in turn. -/
theorem filterRows_and {rows kept : List Row}
    (h : filterRows s (.shortCircuit false a b) outer rows = .ok kept) :
    ∃ between, filterRows s a outer rows = .ok between ∧
      filterRows s b outer between = .ok kept := by
  induction rows generalizing kept with
  | nil => exact ⟨[], rfl, h⟩
  | cons r rest ih =>
    rw [filterRows] at h
    obtain ⟨v, hv, h⟩ := ok_of_bind h
    obtain ⟨more, hmore, h⟩ := ok_of_bind h
    obtain ⟨between, hbetween, hkept⟩ := ih hmore
    cases eq_of_pure_ok h
    obtain ⟨x, hx, ⟨hfalse, rfl⟩ | ⟨hopen, y, hy, rfl⟩⟩ := Scalar.eval_and_ok hv
    · refine ⟨between, ?_, hkept⟩
      rw [filterRows_cons hx, hbetween, hfalse]
      rfl
    · rw [filterRows_cons hx, hbetween]
      refine ⟨_, rfl, ?_⟩
      simp only [Scalar.combine_and hopen]
      by_cases hholds : x.boolean? = some true
      · rw [if_pos hholds, filterRows_cons hy, hkept]
        simp only [hholds, true_and]
        rfl
      · -- The row is gone whatever the second condition says of it.
        rw [if_neg hholds, if_neg fun hboth => hholds hboth.1]
        exact hkept

theorem filter_and {d t : Dataset} (h : d.filter (.shortCircuit false a b) outer = .ok t) :
    ∃ between, d.filter a outer = .ok between ∧ between.filter b outer = .ok t := by
  obtain ⟨kept, hkept, h⟩ := ok_of_bind h
  cases eq_of_pure_ok h
  obtain ⟨between, hbetween, hb⟩ := filterRows_and hkept
  refine ⟨⟨d.schema, between⟩, ?_, ?_⟩
  · rw [filter, hbetween]
    rfl
  · rw [filter, hb]
    rfl

end Dataset

namespace Compile

variable {env : Env} {config : Config} {c c' : Context}

theorem fold_alike {e s : Scalar} (h : env.fold (.scalar e) = .scalar s) : s.Alike e := by
  cases h
  split
  · exact e.alike_fold
  · exact .refl e

theorem and_ok {l r : Compiled} {e : Scalar}
    (h : env.binary (.logic .and) l r = .ok (.scalar e)) :
    ∃ a b, l = .scalar a ∧ r = .scalar b ∧ (∀ op, Typing.expect op a.type? .boolean = .ok ()) ∧
      (∀ op, Typing.expect op b.type? .boolean = .ok ()) ∧ e.Alike (.shortCircuit false a b) := by
  obtain ⟨⟨a, rfl⟩, b, rfl⟩ := scalar_of_binary h
  obtain ⟨_, ho, h⟩ := ok_of_bind h
  obtain ⟨_, ha, ho⟩ := ok_of_bind (typing_ok ho)
  obtain ⟨_, hb, _⟩ := ok_of_bind ho
  refine ⟨a, b, rfl, rfl, fun op => ?_, fun op => ?_, fold_alike (eq_of_pure_ok h)⟩
  · rcases Typing.expect_ok ha with ht | ht <;> rw [ht] <;> rfl
  · rcases Typing.expect_ok hb with ht | ht <;> rw [ht] <;> rfl

/-- Wherever a filter by a conjunction gives a dataset, filtering by one condition and then by the
    other is accepted and gives the same dataset. -/
theorem resolve_filter_and {e a b : Expr} {today : Date} {d : Dataset} (p q : Position)
    (h : resolve config c c' today (.filter p e (.binary q (.logic .and) a b)) =
      .ok (.dataset d)) (x y : Position) :
    resolve config c c' today (.filter y (.filter x e a) b) = .ok (.dataset d) := by
  obtain ⟨plan, hplan, heval⟩ := resolve_dataset_iff.1 h
  cases compile_ok_iff.1 hplan with
  | @filter _ _ _ _ source _ hsource hcondition =>
    cases hcondition with
    | binary ha hb hand =>
      obtain ⟨s, t, rfl, rfl, hs, ht, halike⟩ := and_ok hand
      refine resolve_dataset_iff.2 ⟨.filter (.filter source s) t, compile_ok_iff.2 ?_, ?_⟩
      · -- The first filter keeps the structure, so the second sees the same components.
        exact .filter (.filter hsource ha (hs "filter")) hb (ht "filter")
      · rw [Plan.eval] at heval
        obtain ⟨u, hu, hfilter⟩ := ok_of_bind heval
        rw [Dataset.filter_alike halike] at hfilter
        obtain ⟨between, hbetween, hlast⟩ := Dataset.filter_and hfilter
        rw [Plan.eval, Plan.eval, hu]
        change (u.filter s _ >>= fun k => k.filter t _) = _
        rw [hbetween]
        exact hlast

def gapped : Dataset :=
  { tally with rows := [[.integer 1, .null], [.integer 2, .integer 7], [.integer 3, .integer 4]] }

set_option maxRecDepth 4000 in
theorem resolve_filter_and_gapped :
    ∃ d, resolve {} limited (limited.rebind [("D", gapped)]) .epoch
        (.filter {} (.name {} "D") (.binary {} (.logic .and)
          (.binary {} (.compare .lt) (.name {} "m") (.name {} "limit"))
          (.binary {} (.compare .gt) (.name {} "k") (.literal {} (.integer 1))))) =
            .ok (.dataset d) ∧
      d.rows = [[.integer 3, .integer 4]] ∧
      resolve {} limited (limited.rebind [("D", gapped)]) .epoch
        (.filter {} (.filter {} (.name {} "D")
            (.binary {} (.compare .lt) (.name {} "m") (.name {} "limit")))
          (.binary {} (.compare .gt) (.name {} "k") (.literal {} (.integer 1)))) =
            .ok (.dataset d) :=
  ⟨_, rfl, rfl, resolve_filter_and {} {} rfl {} {}⟩

/-- A quotient that cannot be computed for the key of the row whose measure is null. -/
def quotientHigh : Expr :=
  .binary {} (.compare .gt) (.binary {} .divide (.name {} "limit")
    (.binary {} (.arithmetic .sub) (.name {} "k") (.literal {} (.integer 1))))
    (.literal {} (.integer 2))

set_option maxRecDepth 4000 in
example :
    resolve {} limited (limited.rebind [("D", gapped)]) .epoch
        (.filter {} (.name {} "D") (.binary {} (.logic .and)
          (.binary {} (.compare .lt) (.name {} "m") (.name {} "limit")) quotientHigh)) =
      .error (.evaluation .divisionByZero) ∧
    resolve {} limited (limited.rebind [("D", gapped)]) .epoch
        (.filter {} (.filter {} (.name {} "D")
          (.binary {} (.compare .lt) (.name {} "m") (.name {} "limit"))) quotientHigh) =
      .ok (.dataset ⟨tally.schema, [[.integer 3, .integer 4]]⟩) := ⟨rfl, rfl⟩

end Compile
end Tabular
