import Tabular.Proofs.Compile.Likeness
import Tabular.Proofs.Folding.Alike

set_option autoImplicit false

namespace Tabular.Compile

def Env.folding (env : Env) (on : Bool) : Env :=
  ⟨env.context, { env.config with foldConstants := on }⟩

def alikeness : Likeness := ⟨Scalar.Alike, Plan.Alike⟩

theorem alike_iff_both {c d : Compiled} : c.Alike d ↔ alikeness.Both c d := by
  constructor
  · rintro (h | h)
    · exact .scalar h
    · exact .dataset h
  · rintro (h | h)
    · exact .scalar h
    · exact .dataset h

namespace alikeness

theorem columns {as bs : List CalcColumn} (h : List.Forall₂ alikeness.Column as bs) :
    List.Forall₂ CalcColumn.Alike as bs :=
  h.imp fun _ _ h => ⟨h.name, h.role, h.expression⟩

theorem rules {as bs : List RowRule} (h : List.Forall₂ alikeness.Rule as bs) :
    List.Forall₂ RowRule.Alike as bs :=
  h.imp fun _ _ h => ⟨h.id, h.antecedent, h.consequent, h.code, h.level⟩

theorem plan_of {p q : Plan} (hs : p.schema = q.schema) (hn : p.name = q.name)
    (he : ∀ c today, p.eval c today = q.eval c today) : alikeness.plan p q := ⟨hs, hn, he⟩

theorem congruent : alikeness.Congruent where
  type h := h.type
  known h := h.known
  literal v t := .refl _
  read n t := .refl _
  apply op as bs h := .apply op h
  shortCircuit dominant l l' r r' hl hr := .shortCircuit dominant hl hr
  conditional type t t' y y' n n' ht hy hn := .conditional type ht hy hn
  schema h := h.schema
  name h := h.name
  rename pairs s h := plan_of rfl rfl fun c today => by simp only [Plan.eval, h.eval]
  project names keep s h := plan_of rfl rfl fun c today => by simp only [Plan.eval, h.eval]
  filter h ha := plan_of h.schema rfl fun c today => by
    simp only [Plan.eval, h.eval, Dataset.filter_alike ha]
  calculate calls as bs s h ha := plan_of rfl rfl fun c today => by
    simp only [Plan.eval, h.eval, Dataset.calculateOver_alike (columns ha)]
  windowed calls attributes s h := plan_of rfl rfl fun c today => by simp only [Plan.eval, h.eval]
  map m s h := plan_of rfl rfl fun c today => by
    simp only [Plan.eval, Compiled.Alike.evalAll (h.imp fun _ _ h => alike_iff_both.2 h)]
  combine op ps qs s h := plan_of rfl rfl fun c today => by
    simp only [Plan.eval, Plan.Alike.evalAll h]
  checkDatapoint measures mode s h ha := plan_of rfl rfl fun c today => by
    simp only [Plan.eval, h.eval, DatapointCheck.evaluate_alike (rules ha)]
  check mode s h hab hc hl := plan_of rfl rfl fun c today => by
    simp only [Plan.eval, h.eval, Plan.Alike.evalOption hab, Check.evaluate_alike hc hl]
  checkHierarchy check s h := plan_of rfl rfl fun c today => by simp only [Plan.eval, h.eval]

end alikeness

theorem Env.folding_like (env : Env) (x y : Bool) :
    (env.folding x).Like alikeness (env.folding y) where
  fold {a b} h := by
    have hfold : ∀ (on : Bool) (e : Scalar), Scalar.Alike (if on then e.fold else e) e := by
      intro on e
      cases on with
      | true => exact Scalar.alike_fold e
      | false => exact .refl e
    exact ((hfold x a).trans h).trans (hfold y b).symm
  policy := rfl
  keepComponent := rfl
  patterns := rfl

end Tabular.Compile
