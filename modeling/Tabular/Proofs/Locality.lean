import Tabular.Proofs.Safety.Plans

set_option autoImplicit false

namespace Tabular

namespace Scalar

mutual

theorem eval_of_reads : ∀ (e : Scalar) {s s' : Scope}, s.today = s'.today →
    (∀ n t, e.Reads n t → s.lookup n = s'.lookup n) → e.eval s = e.eval s'
  | .literal _ _, _, _, _, _ => by simp only [eval]
  | .read n t, _, _, _, h => by simp only [eval, h n t .read]
  | .apply op args, s, s', htoday, h => by
    have hargs := evalAll_of_reads args htoday fun a ha n t hr => h n t (.apply ha hr)
    simp only [eval, hargs, htoday]
  | .shortCircuit dominant l r, s, s', htoday, h => by
    have hl := eval_of_reads l htoday fun n t hr => h n t (.left hr)
    have hr := eval_of_reads r htoday fun n t hr => h n t (.right hr)
    simp only [eval, hl, hr]
  | .conditional t y n type, s, s', htoday, h => by
    have ht := eval_of_reads t htoday fun n t hr => h n t (.test hr)
    have hy := eval_of_reads y htoday fun n t hr => h n t (.yes hr)
    have hn := eval_of_reads n htoday fun n t hr => h n t (.no hr)
    simp only [eval, ht, hy, hn]

theorem evalAll_of_reads : ∀ (es : List Scalar) {s s' : Scope}, s.today = s'.today →
    (∀ e ∈ es, ∀ n t, e.Reads n t → s.lookup n = s'.lookup n) → evalAll s es = evalAll s' es
  | [], _, _, _, _ => by simp only [evalAll]
  | e :: rest, s, s', htoday, h => by
    obtain ⟨he, hrest⟩ := List.forall_mem_cons.1 h
    have hone := eval_of_reads e htoday he
    have hall := evalAll_of_reads rest htoday hrest
    simp only [evalAll, hone, hall]

end

theorem reads_fold {e : Scalar} {n : String} {t : ScalarType} (h : e.fold.Reads n t) :
    e.Reads n t := by
  unfold fold at h
  split at h
  · cases h
  · exact h

end Scalar

namespace Compile

variable {env : Env} {f : Frame}

/-- A scalar expression reads what names of the frame stand for. -/
def Local (f : Frame) : Compiled → Prop
  | .scalar e => ∀ n t, e.Reads n t → f.Provides n t
  | .dataset _ => True

theorem local_fold {e : Scalar} (h : Local f (.scalar e)) : Local f (env.fold (.scalar e)) := by
  intro n t hr
  change Scalar.Reads n t (if env.config.foldConstants then e.fold else e) at hr
  split at hr
  · exact h n t (Scalar.reads_fold hr)
  · exact h n t hr

theorem local_scalars {operands : List Compiled} (h : ∀ a ∈ operands, Local f a) {e : Scalar}
    (he : e ∈ scalars operands) : Local f (.scalar e) := by
  obtain ⟨a, ha, hs⟩ := List.mem_filterMap.1 he
  cases a with
  | scalar s =>
    cases hs
    exact h _ ha
  | dataset p => cases hs

theorem local_lift {build : Builder} {operands : List Compiled} {c : Compiled}
    (h : env.lift build operands = .ok c) (ho : ∀ a ∈ operands, Local f a) : Local f c := by
  rcases lift_ok h with ⟨_, op, _, rfl⟩ | ⟨first, rest, _, h⟩
  · refine local_fold fun n t hr => ?_
    cases hr with
    | apply ha hr => exact local_scalars ho ha n t hr
  · obtain ⟨_, outs, s, _, _, rfl⟩ := liftOver_ok h
    trivial

theorem local_binary {op : BinaryOp} {l r c : Compiled} (h : env.binary op l r = .ok c)
    (hl : Local f l) (hr : Local f r) : Local f c := by
  rcases binary_ok h with ⟨_, a, b, _, rfl, rfl, _, rfl⟩ | h
  · refine local_fold fun n t hn => ?_
    cases hn with
    | left hn => exact hl n t hn
    | right hn => exact hr n t hn
  · exact local_lift h (List.forall_mem_cons.2 ⟨hl, List.forall_mem_singleton.2 hr⟩)

theorem local_widenBranch {type : Option ScalarType} {e : Scalar} (h : Local f (.scalar e)) :
    Local f (.scalar (widenBranch type e)) := by
  intro n t hr
  unfold widenBranch at hr
  split at hr
  · cases hr with
    | apply ha hr =>
      cases List.mem_singleton.1 ha
      exact h n t hr
  · exact h n t hr

theorem local_conditional {test yes no : Scalar} {c : Compiled}
    (h : env.conditional test yes no = .ok c) (ht : Local f (.scalar test))
    (hy : Local f (.scalar yes)) (hn : Local f (.scalar no)) : Local f c := by
  obtain ⟨_, _, _, rfl⟩ := conditional_ok h
  refine local_fold fun n t hr => ?_
  cases hr with
  | test hr => exact ht n t hr
  | yes hr => exact local_widenBranch hy n t hr
  | no hr => exact local_widenBranch hn n t hr

theorem Compiles.reads {e : Expr} {c : Compiled} (h : Compiles env f e c) : Local f c := by
  induction h with
  | literal => exact fun _ _ hr => nomatch hr
  | name h =>
    rcases name_ok h with ⟨component, type, hf, rfl⟩ | ⟨_, _, _, rfl⟩ | ⟨_, _, rfl⟩
    · rintro n t ⟨⟩
      exact ⟨_, hf⟩
    · exact fun _ _ hr => nomatch hr
    · trivial
  | unary _ h ih => exact local_lift h (List.forall_mem_singleton.2 ih)
  | binary _ _ h ihl ihr => exact local_binary h ihl ihr
  | conditional _ _ _ h iht ihy ihn => exact local_conditional h iht ihy ihn
  | cast _ h ih => exact local_lift h (List.forall_mem_singleton.2 ih)
  | call hlen _ h ih =>
    refine local_lift h fun a ha => ?_
    obtain ⟨e, he⟩ := exists_mem_zip hlen ha
    exact ih e a he
  | member _ h ih => exact local_lift h (List.forall_mem_singleton.2 ih)
  | _ => trivial

theorem Compiles.closed {e : Expr} {s : Scalar} (h : Compiles env [] e (.scalar s)) (n : String)
    (t : ScalarType) : ¬ s.Reads n t :=
  fun hr => Frame.not_provides_nil n t (h.reads n t hr)

end Compile
end Tabular
