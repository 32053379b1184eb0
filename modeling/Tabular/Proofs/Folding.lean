import Tabular.Proofs.Compile.Congruence
import Tabular.Proofs.Folding.Plans

set_option autoImplicit false

namespace Tabular.Compile

theorem name_alike (env : Env) (x y : Bool) (f : Frame) (n : String) :
    Paired alikeness.Both ((env.folding x).name f n) ((env.folding y).name f n) := by
  change Paired alikeness.Both (env.name f n) (env.name f n)
  refine .refl (fun c => ?_) _
  cases c with
  | scalar s => exact .scalar (.refl s)
  | dataset p => exact .dataset ⟨rfl, rfl, fun _ _ => rfl⟩

theorem compileWithin_alike (env : Env) (x y : Bool) (depth : Nat) (f : Frame) (e : Expr) :
    Paired Compiled.Alike (compileWithin (env.folding x) depth f e)
      (compileWithin (env.folding y) depth f e) := by
  induction depth generalizing f e with
  | zero => exact .error _
  | succ depth ih =>
    have hrules : ∀ inner e, Paired alikeness.Both (compileWithin (env.folding x) depth inner e)
        (compileWithin (env.folding y) depth inner e) :=
      fun inner e => (ih inner e).imp fun _ _ h => alike_iff_both.1 h
    have hagrees : ∀ m ∈ e.mentions, alikeness.Agrees Eq (env.folding x) (env.folding y)
        (compileWithin (env.folding x) depth) (compileWithin (env.folding y) depth) m := by
      intro m _
      cases m with
      | identifier n =>
        rintro f _ rfl
        exact name_alike env x y f n
      | ruleset n =>
        exact ⟨rfl, rfl, fun rs _ _ _ inner _ =>
          alikeness.congruent.rowRules fun _ _ e _ => hrules inner e⟩
    have hsides : alikeness.Sides Eq (env.folding x) (env.folding y) :=
      ⟨alikeness.congruent, env.folding_like x y, fun _ => rfl⟩
    have hexpr := hsides.expr e (rfl : f = f) hagrees
    exact hexpr.imp fun _ _ h => alike_iff_both.2 h

/-- Compilation with folding and without it fail alike or give expressions alike. -/
theorem compile_alike (env : Env) (e : Expr) :
    Paired Compiled.Alike (compile (env.folding true) e) (compile (env.folding false) e) :=
  compileWithin_alike env true false _ [] e

end Tabular.Compile
