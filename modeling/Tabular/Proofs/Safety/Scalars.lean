import Tabular.Proofs.Safety.Operations
import Tabular.Scalar

set_option autoImplicit false

namespace Tabular

theorem Value.Fits.weaken {v : Value} {o t : Option ScalarType} (h : v.Fits o)
    (ht : o = none ∨ o = t) : v.Fits t := by
  rcases ht with rfl | rfl
  · cases h
    exact Value.fits_null t
  · exact h

namespace Scalar

inductive Typed (reads : String → ScalarType → Prop) : Scalar → Prop
  | literal {v : Value} {t : Option ScalarType} (h : v.Fits t) : Typed reads (.literal v t)
  | read {n : String} {t : ScalarType} (h : reads n t) : Typed reads (.read n t)
  | apply {op : Operation} {args : List Scalar} (hop : op.Sound (args.map type?))
      (hargs : ∀ a ∈ args, Typed reads a) : Typed reads (.apply op args)
  | shortCircuit {dominant : Bool} {l r : Scalar} (hl : Typed reads l) (hr : Typed reads r) :
      Typed reads (.shortCircuit dominant l r)
  | conditional {test yes no : Scalar} {t : Option ScalarType} (htest : Typed reads test)
      (hyes : Typed reads yes) (hno : Typed reads no) (hy : yes.type? = none ∨ yes.type? = t)
      (hn : no.type? = none ∨ no.type? = t) : Typed reads (.conditional test yes no t)

inductive Reads (n : String) (t : ScalarType) : Scalar → Prop
  | read : Reads n t (.read n t)
  | apply {op : Operation} {args : List Scalar} {a : Scalar} (ha : a ∈ args) (h : Reads n t a) :
      Reads n t (.apply op args)
  | left {dominant : Bool} {l r : Scalar} (h : Reads n t l) : Reads n t (.shortCircuit dominant l r)
  | right {dominant : Bool} {l r : Scalar} (h : Reads n t r) :
      Reads n t (.shortCircuit dominant l r)
  | test {test yes no : Scalar} {u : Option ScalarType} (h : Reads n t test) :
      Reads n t (.conditional test yes no u)
  | yes {test yes no : Scalar} {u : Option ScalarType} (h : Reads n t yes) :
      Reads n t (.conditional test yes no u)
  | no {test yes no : Scalar} {u : Option ScalarType} (h : Reads n t no) :
      Reads n t (.conditional test yes no u)

variable {reads : String → ScalarType → Prop} {e : Scalar}

theorem Typed.declared (h : e.Typed reads) {n : String} {t : ScalarType} (hr : e.Reads n t) :
    reads n t := by
  induction hr with
  | read =>
    cases h with
    | read h => exact h
  | apply ha _ ih =>
    cases h with
    | apply _ hargs => exact ih (hargs _ ha)
  | left _ ih =>
    cases h with
    | shortCircuit hl _ => exact ih hl
  | right _ ih =>
    cases h with
    | shortCircuit _ hr => exact ih hr
  | test _ ih =>
    cases h with
    | conditional ht _ _ _ _ => exact ih ht
  | yes _ ih =>
    cases h with
    | conditional _ hy _ _ _ => exact ih hy
  | no _ ih =>
    cases h with
    | conditional _ _ hn _ _ => exact ih hn

theorem Typed.of_reads {others : String → ScalarType → Prop} (h : e.Typed reads)
    (hr : ∀ n t, e.Reads n t → others n t) : e.Typed others := by
  induction h with
  | literal h => exact .literal h
  | read _ => exact .read (hr _ _ .read)
  | apply hop _ ih => exact .apply hop fun a ha => ih a ha fun n t h => hr n t (.apply ha h)
  | shortCircuit _ _ ihl ihr =>
    exact .shortCircuit (ihl fun n t h => hr n t (.left h)) (ihr fun n t h => hr n t (.right h))
  | conditional _ _ _ hy hn iht ihy ihn =>
    exact .conditional (iht fun n t h => hr n t (.test h)) (ihy fun n t h => hr n t (.yes h))
      (ihn fun n t h => hr n t (.no h)) hy hn

/-- The scope has a value of the type for every declared name. -/
def Covers (s : Scope) (reads : String → ScalarType → Prop) : Prop :=
  ∀ n t, reads n t → ∃ v, s.lookup n = some v ∧ v.conforms t = true

theorem safe_evalAll {s : Scope} {es : List Scalar}
    (h : ∀ e ∈ es, Safe (fun v => v.Fits e.type?) (e.eval s)) :
    Safe (fun vs => List.Forall₂ Value.Fits vs (es.map type?)) (evalAll s es) := by
  induction es with
  | nil => exact .nil
  | cons e es ih =>
    obtain ⟨he, hes⟩ := List.forall_mem_cons.1 h
    rw [evalAll]
    exact he.bind fun v hv => (ih hes).bind fun vs hvs => .cons hv hvs

theorem combine_conforms (dominant : Bool) (a b : Value) :
    (combine dominant a b).conforms .boolean = true := by
  unfold combine
  split
  · split
    · rfl
    · split <;> rfl
  · rfl

theorem Typed.safe_eval (h : e.Typed reads) {s : Scope} (hs : Covers s reads) :
    Safe (fun v => v.Fits e.type?) (e.eval s) := by
  induction h with
  | literal h => exact h
  | read h =>
    obtain ⟨v, hv, hc⟩ := hs _ _ h
    rw [eval, hv]
    exact hc
  | apply hop _ ih =>
    rw [eval]
    exact (safe_evalAll ih).bind fun vs hvs => hop s.today vs hvs
  | shortCircuit _ _ ihl ihr =>
    rw [eval]
    refine ihl.bind fun a _ => ?_
    split
    · exact rfl
    · exact ihr.bind fun b _ => combine_conforms _ a b
  | conditional _ _ _ hy hn iht ihy ihn =>
    rw [eval]
    refine iht.bind fun c _ => ?_
    split
    · exact ihy.imp fun v _ hv => hv.weaken hy
    · exact ihn.imp fun v _ hv => hv.weaken hn

theorem isConstant_of_mem {es : List Scalar} (h : allConstant es = true) {e : Scalar}
    (he : e ∈ es) : e.isConstant = true := by
  induction es with
  | nil => cases he
  | cons a es ih =>
    rw [allConstant, Bool.and_eq_true_iff] at h
    rcases List.mem_cons.1 he with rfl | he
    · exact h.1
    · exact ih h.2 he

theorem not_constant_of_reads {n : String} {t : ScalarType} (h : e.Reads n t) :
    e.isConstant = false := by
  refine Bool.eq_false_iff.2 fun hc => ?_
  induction h with
  | read => cases hc
  | apply ha _ ih =>
    rw [isConstant, Bool.and_eq_true_iff] at hc
    exact ih (isConstant_of_mem hc.2 ha)
  | left _ ih =>
    rw [isConstant, Bool.and_eq_true_iff] at hc
    exact ih hc.1
  | right _ ih =>
    rw [isConstant, Bool.and_eq_true_iff] at hc
    exact ih hc.2
  | test _ ih =>
    rw [isConstant, Bool.and_eq_true_iff, Bool.and_eq_true_iff] at hc
    exact ih hc.1.1
  | yes _ ih =>
    rw [isConstant, Bool.and_eq_true_iff, Bool.and_eq_true_iff] at hc
    exact ih hc.1.2
  | no _ ih =>
    rw [isConstant, Bool.and_eq_true_iff, Bool.and_eq_true_iff] at hc
    exact ih hc.2

theorem Typed.known_fits (h : e.Typed reads) {v : Value} (hv : e.known? = some v) :
    v.Fits e.type? := by
  unfold known? at hv
  split at hv
  · rename_i hc
    have hconst := (Bool.and_eq_true_iff.1 hc).1
    have hnone : e.Typed fun _ _ => False := h.of_reads fun n t hr => by
      rw [not_constant_of_reads hr] at hconst
      cases hconst
    have hsafe := hnone.safe_eval (s := Scope.empty) fun _ _ hf => hf.elim
    split at hv
    · rename_i w hw
      cases hv
      exact hsafe.of_ok hw
    · cases hv
  · cases hv

theorem Typed.fold (h : e.Typed reads) : e.fold.Typed reads := by
  unfold Scalar.fold
  split
  · rename_i v hv
    exact .literal (h.known_fits hv)
  · exact h

end Scalar
end Tabular
