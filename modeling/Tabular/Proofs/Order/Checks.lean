import Tabular.Proofs.Order.Joins
import Tabular.Rules.Check
import Tabular.Rules.Datapoint

set_option autoImplicit false

namespace Tabular

variable {d e : Dataset}

namespace Check

variable {other other' : Option Dataset}

theorem imbalanceType_rearranged (h : Option.Rel Dataset.Rearranged other other') :
    imbalanceType other = imbalanceType other' := by
  cases h with
  | none => rfl
  | some h => rw [imbalanceType, imbalanceType, h.schema]

theorem imbalances_perm {condition : Schema} (h : Option.Rel Dataset.Rearranged other other')
    (hk : ∀ o, other = some o →
      o.Distinct ∧ o.schema.identifierNames ⊆ condition.identifierNames) :
    Matched (fun m m' => ∀ k, m.find? k = m'.find? k) (imbalances condition other)
      (imbalances condition other') := by
  cases h with
  | none => exact .ok fun _ => rfl
  | @some o o' h =>
    obtain ⟨hd, hn⟩ := hk o rfl
    rw [imbalances, imbalances, h.schema]
    refine .bind_same _ fun m _ => .bind_same _ fun column _ => .bind_same _ fun ids hc => ?_
    exact .ok (h.find?_reverse hd hn (liftModel_ok hc) (Row.cell · column))

theorem reportRows_eq (c : Check) (s : Schema) (column : Nat) (others : Keyed Value)
    (outer : Scope) (rs : List Row) :
    c.reportRows s column others outer rs =
      collect (fun r => (c.reportRow s column others outer r).map Option.toList) rs := by
  induction rs with
  | nil => rfl
  | cons r rest ih =>
    rw [reportRows, collect, ih]
    cases c.reportRow s column others outer r <;> rfl

theorem evaluate_perm (c : Check) (outer : Scope) (h : d.Rearranged e)
    (ho : Option.Rel Dataset.Rearranged other other')
    (hk : ∀ o, other = some o →
      o.Distinct ∧ o.schema.identifierNames ⊆ d.schema.identifierNames) :
    Matched Dataset.Rearranged (c.evaluate outer d other) (c.evaluate outer e other') := by
  unfold evaluate rows
  rw [imbalanceType_rearranged ho, h.schema]
  refine .bind_same _ fun type _ => .bind_same _ fun s _ => ?_
  refine Matched.bind (R := List.Perm) ?_ fun _ _ _ _ hp => .ok ⟨rfl, hp⟩
  refine .bind_same _ fun column _ => (imbalances_perm ho hk).bind fun others others' _ _ hf => ?_
  have hrow : c.reportRow d.schema column others outer =
      c.reportRow d.schema column others' outer := by
    funext r
    simp only [reportRow, hf]
  rw [reportRows_eq, reportRows_eq, hrow]
  exact collect_perm _ h.rows

end Check

namespace DatapointCheck

theorem reportRows_eq (c : DatapointCheck) (input : Schema) (kept : List Nat) (outer : Scope)
    (rs : List Row) :
    c.reportRows input kept outer rs =
      collect (fun r => c.reportRules input kept (Scope.ofRow input r outer) r c.rules) rs := by
  induction rs with
  | nil => rfl
  | cons r rest ih => rw [reportRows, collect, ih]

theorem evaluate_perm (c : DatapointCheck) (outer : Scope) (h : d.Rearranged e) :
    Matched Dataset.Rearranged (c.evaluate outer d) (c.evaluate outer e) := by
  unfold evaluate
  rw [h.schema]
  refine .bind_same _ fun out _ => ?_
  rw [reportRows_eq, reportRows_eq]
  exact (collect_perm _ h.rows).bind fun _ _ _ _ hp => .ok ⟨rfl, hp⟩

end DatapointCheck
end Tabular
