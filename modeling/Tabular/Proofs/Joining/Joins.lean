import Tabular.Proofs.Joining.Found
import Tabular.Proofs.Joining.Partners

set_option autoImplicit false

namespace Tabular

inductive JoinKind where
  /-- By an operation on measures. -/
  | lifted
  /-- By a set operation. -/
  | combined
  /-- By a check, with its imbalance. -/
  | checked
  deriving DecidableEq, Repr

/-- Two plans that are joined by the identifiers of the first, and the plan that joins them. -/
structure Join where
  kind : JoinKind
  whole : Plan
  first : Plan
  other : Plan

def Join.led (kind : JoinKind) (whole : Plan) : List Plan → List Join
  | [] => []
  | first :: rest => rest.map (⟨kind, whole, first, ·⟩)

def Plan.ownJoins : Plan → List Join
  | .map operands m s => Join.led .lifted (.map operands m s) (Compile.plans operands)
  | .combine op operands s => Join.led .combined (.combine op operands s) operands
  | .check p imbalance c s => imbalance.toList.map (⟨.checked, .check p imbalance c s, p, ·⟩)
  | _ => []

mutual

def Plan.joins : Plan → List Join
  | .named _ _ => []
  | .constant _ => []
  | .labelled _ p => p.joins
  | .rename p _ _ => p.joins
  | .project p _ _ _ => p.joins
  | .filter p _ => p.joins
  | .calculate p _ _ _ => p.joins
  | .windowed p _ _ _ => p.joins
  | .map operands m s => (Plan.map operands m s).ownJoins ++ Compiled.joinsAll operands
  | .combine op operands s => (Plan.combine op operands s).ownJoins ++ Plan.joinsAll operands
  | .checkDatapoint p _ _ => p.joins
  | .check p imbalance c s =>
    (Plan.check p imbalance c s).ownJoins ++ (p.joins ++ Plan.joinsOption imbalance)
  | .checkHierarchy p _ _ => p.joins

def Plan.joinsAll : List Plan → List Join
  | [] => []
  | p :: rest => p.joins ++ Plan.joinsAll rest

def Plan.joinsOption : Option Plan → List Join
  | none => []
  | some p => p.joins

def Compiled.joins : Compiled → List Join
  | .scalar _ => []
  | .dataset p => p.joins

def Compiled.joinsAll : List Compiled → List Join
  | [] => []
  | a :: rest => a.joins ++ Compiled.joinsAll rest

end

namespace Join

variable (j : Join)

def Covered : Prop := ∀ n ∈ j.first.schema.identifierNames, n ∈ j.other.schema.names

def Named : Prop := ∀ n ∈ j.first.schema.identifierNames, n ∈ j.other.schema.identifierNames

def Aligned : Prop := ∀ i ∈ j.first.schema.identifiers,
  ∃ k ∈ j.other.schema.identifiers, k.name = i.name ∧ k.type = i.type

/-- What the datasets are joined by under the name is of different types. -/
def Mistyped (n : String) : Prop := ∃ i ∈ j.first.schema.identifiers,
  ∃ k ∈ j.other.schema.components, i.name = n ∧ k.name = n ∧ i.type ≠ k.type

/-- Only rows that are null under the name have partners. A check reports the others too, with a
    null for the imbalance. -/
def NullAt (c : Context) (today : Date) (n : String) : Prop :=
  ∀ d, j.whole.eval c today = .ok d → ∀ r ∈ d.rows, d.schema.read r n = .null ∨
    j.kind = .checked ∧ d.schema.read r Report.imbalanceName = .null

def Vetted : Prop := (j.kind = .lifted → j.Named) ∧ (j.kind = .combined → j.Aligned)

theorem Aligned.not_mistyped {j : Join} (h : j.Aligned) (n : String) : ¬ j.Mistyped n := by
  rintro ⟨i, hi, k, hk, rfl, hn, ht⟩
  obtain ⟨k', hk', hn', ht'⟩ := h i hi
  rw [Schema.eq_of_name_eq hk (List.mem_of_mem_filter hk') (hn.trans hn'.symm)] at ht
  exact ht ht'.symm

theorem Mistyped.null {j : Join} {n : String} (hn : j.Mistyped n) {d e : Dataset}
    (hd : d.schema = j.first.schema) (he : e.schema = j.other.schema) (hcd : d.Conforms)
    (hce : e.Conforms) {f : String → Value}
    (hmd : d.Meets d.schema.identifierNames (d.schema.identifierNames.map f))
    (hme : e.Meets d.schema.identifierNames (d.schema.identifierNames.map f)) :
    f n = .null := by
  obtain ⟨i, hi, k, hk, rfl, hname, ht⟩ := hn
  rw [← hd] at hi
  rw [← he] at hk
  have hmem : i.name ∈ d.schema.identifierNames := List.mem_map_of_mem hi
  exact hmd.null hme hcd hce (List.mem_of_mem_filter hi) hk hmem hname ht

end Join

/-- The data have the types that are declared for them. -/
def Plan.Conforms (c : Context) (today : Date) (p : Plan) : Prop :=
  ∀ d, p.eval c today = .ok d → d.Conforms

theorem Compiled.mem_joinsAll {operands : List Compiled} {j : Join} :
    j ∈ Compiled.joinsAll operands ↔ ∃ p ∈ Compile.plans operands, j ∈ p.joins := by
  induction operands with
  | nil =>
    change j ∈ [] ↔ ∃ p ∈ ([] : List Plan), j ∈ p.joins
    simp
  | cons a rest ih =>
    change j ∈ a.joins ++ Compiled.joinsAll rest ↔ _
    rw [List.mem_append, ih]
    cases a with
    | scalar e =>
      change j ∈ [] ∨ _ ↔ ∃ p ∈ Compile.plans rest, j ∈ p.joins
      simp
    | dataset p =>
      change j ∈ p.joins ∨ _ ↔ ∃ q ∈ p :: Compile.plans rest, j ∈ q.joins
      rw [List.exists_mem_cons_iff]

theorem Plan.mem_joinsAll {operands : List Plan} {j : Join} :
    j ∈ Plan.joinsAll operands ↔ ∃ p ∈ operands, j ∈ p.joins := by
  induction operands with
  | nil =>
    change j ∈ [] ↔ _
    simp
  | cons p rest ih =>
    change j ∈ p.joins ++ Plan.joinsAll rest ↔ _
    rw [List.mem_append, ih, List.exists_mem_cons_iff]

theorem Plan.mem_joinsOption {other : Option Plan} {j : Join} :
    j ∈ Plan.joinsOption other ↔ ∃ p ∈ other.toList, j ∈ p.joins := by
  cases other with
  | none =>
    change j ∈ [] ↔ _
    simp
  | some p =>
    change j ∈ p.joins ↔ _
    simp

/-- The checks have the columns they join by. -/
def Plan.Keyed (p : Plan) : Prop := ∀ j ∈ p.joins, j.kind = .checked → j.Covered

/-- What is known of the joins of a plan: what has been compared, that it takes keyed checks to
    succeed, that with keyed checks no component is missing, and which rows have partners where
    the types differ. -/
structure Plan.Linked (c : Context) (today : Date) (p : Plan) : Prop where
  vetted : ∀ j ∈ p.joins, j.Vetted
  keyed : ∀ d, p.eval c today = .ok d → p.Keyed
  finds : p.Keyed → Finds (p.eval c today)
  matched : ∀ j ∈ p.joins, j.first.Conforms c today → j.other.Conforms c today →
    ∀ n, j.Mistyped n → j.NullAt c today n

def Compiled.Linked (c : Context) (today : Date) : Compiled → Prop
  | .scalar _ => True
  | .dataset p => p.Linked c today

namespace Plan.Linked

variable {c : Context} {today : Date} {plan : Plan}

/-- A plan has its own joins and those of its parts, which are evaluated before it. -/
theorem of_parts (parts : List Plan) (hl : ∀ p ∈ parts, p.Linked c today)
    (hj : ∀ j, j ∈ plan.joins ↔ j ∈ plan.ownJoins ∨ ∃ p ∈ parts, j ∈ p.joins)
    (hparts : ∀ d, plan.eval c today = .ok d → ∀ p ∈ parts, ∃ e, p.eval c today = .ok e)
    (hvetted : ∀ j ∈ plan.ownJoins, j.Vetted)
    (hkeyed : ∀ d, plan.eval c today = .ok d → ∀ j ∈ plan.ownJoins, j.kind = .checked → j.Covered)
    (hfinds : (∀ j ∈ plan.ownJoins, j.kind = .checked → j.Covered) →
      (∀ p ∈ parts, Finds (p.eval c today)) → Finds (plan.eval c today))
    (hmatched : ∀ j ∈ plan.ownJoins, j.first.Conforms c today → j.other.Conforms c today →
      ∀ n, j.Mistyped n → j.NullAt c today n) : plan.Linked c today where
  vetted j hm := by
    rcases (hj j).1 hm with hm | ⟨p, hp, hm⟩
    · exact hvetted j hm
    · exact (hl p hp).vetted j hm
  keyed d hd j hm hk := by
    rcases (hj j).1 hm with hm | ⟨p, hp, hm⟩
    · exact hkeyed d hd j hm hk
    · obtain ⟨e, he⟩ := hparts d hd p hp
      exact (hl p hp).keyed e he j hm hk
  finds hk := by
    refine hfinds (fun j hm => hk j ((hj j).2 (.inl hm))) fun p hp => (hl p hp).finds ?_
    exact fun j hm => hk j ((hj j).2 (.inr ⟨p, hp, hm⟩))
  matched j hm := by
    rcases (hj j).1 hm with hm | ⟨p, hp, hm⟩
    · exact hmatched j hm
    · exact (hl p hp).matched j hm

theorem of_unjoined (parts : List Plan) (hl : ∀ p ∈ parts, p.Linked c today)
    (hown : plan.ownJoins = []) (hj : ∀ j, j ∈ plan.joins ↔ ∃ p ∈ parts, j ∈ p.joins)
    (hparts : ∀ d, plan.eval c today = .ok d → ∀ p ∈ parts, ∃ e, p.eval c today = .ok e)
    (hfinds : (∀ p ∈ parts, Finds (p.eval c today)) → Finds (plan.eval c today)) :
    plan.Linked c today := by
  refine of_parts parts hl (fun j => ?_) hparts ?_ ?_ (fun _ => hfinds) ?_
  all_goals rw [hown]
  · simpa using hj j
  · exact nofun
  · exact fun _ _ => nofun
  · exact nofun

theorem step {source : Plan} (hs : source.Linked c today) (hown : plan.ownJoins = [])
    (hj : plan.joins = source.joins) {next : Dataset → Except EvalError Dataset}
    (he : plan.eval c today = source.eval c today >>= next)
    (hn : ∀ d, source.eval c today = .ok d → Finds (next d)) : plan.Linked c today := by
  refine of_unjoined [source] (List.forall_mem_singleton.2 hs) hown (fun j => by simp [hj])
    (fun r hr => ?_) fun hf => ?_
  · rw [he] at hr
    obtain ⟨d, hd, _⟩ := ok_of_bind hr
    exact List.forall_mem_singleton.2 ⟨d, hd⟩
  · rw [he]
    exact (List.forall_mem_singleton.1 hf).bind hn

end Plan.Linked
end Tabular
