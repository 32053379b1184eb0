import Mathlib.Data.List.Forall2
import Tabular.Plan
import Tabular.Proofs.Outcome

set_option autoImplicit false

namespace Tabular

namespace Scalar

structure Alike (a b : Scalar) : Prop where
  type : a.type? = b.type?
  constant : a.isConstant = b.isConstant
  volatile : a.isVolatile = b.isVolatile
  eval : ∀ s, a.eval s = b.eval s

namespace Alike

variable {a b c : Scalar} {as bs : List Scalar}

theorem refl (a : Scalar) : a.Alike a := ⟨rfl, rfl, rfl, fun _ => rfl⟩

theorem symm (h : a.Alike b) : b.Alike a :=
  ⟨h.type.symm, h.constant.symm, h.volatile.symm, fun s => (h.eval s).symm⟩

theorem trans (h : a.Alike b) (h' : b.Alike c) : a.Alike c :=
  ⟨h.type.trans h'.type, h.constant.trans h'.constant, h.volatile.trans h'.volatile,
    fun s => (h.eval s).trans (h'.eval s)⟩

theorem known (h : a.Alike b) : a.known? = b.known? := by
  unfold known?
  rw [h.constant, h.volatile, h.eval]

theorem allConstant (h : List.Forall₂ Alike as bs) :
    Scalar.allConstant as = Scalar.allConstant bs := by
  induction h with
  | nil => rfl
  | cons h _ ih => simp only [Scalar.allConstant, h.constant, ih]

theorem anyVolatile (h : List.Forall₂ Alike as bs) :
    Scalar.anyVolatile as = Scalar.anyVolatile bs := by
  induction h with
  | nil => rfl
  | cons h _ ih => simp only [Scalar.anyVolatile, h.volatile, ih]

theorem evalAll (h : List.Forall₂ Alike as bs) (s : Scope) :
    Scalar.evalAll s as = Scalar.evalAll s bs := by
  induction h with
  | nil => rfl
  | cons h _ ih => simp only [Scalar.evalAll, h.eval, ih]

theorem apply (op : Operation) (h : List.Forall₂ Alike as bs) :
    (Scalar.apply op as).Alike (.apply op bs) where
  type := rfl
  constant := by simp only [isConstant, allConstant h]
  volatile := by simp only [isVolatile, anyVolatile h]
  eval s := by simp only [Scalar.eval, evalAll h]

theorem shortCircuit (dominant : Bool) {l l' r r' : Scalar} (hl : l.Alike l') (hr : r.Alike r') :
    (Scalar.shortCircuit dominant l r).Alike (.shortCircuit dominant l' r') where
  type := rfl
  constant := by simp only [isConstant, hl.constant, hr.constant]
  volatile := by simp only [isVolatile, hl.volatile, hr.volatile]
  eval s := by simp only [Scalar.eval, hl.eval, hr.eval]

theorem conditional (type : Option ScalarType) {t t' y y' n n' : Scalar} (ht : t.Alike t')
    (hy : y.Alike y') (hn : n.Alike n') :
    (Scalar.conditional t y n type).Alike (.conditional t' y' n' type) where
  type := rfl
  constant := by simp only [isConstant, ht.constant, hy.constant, hn.constant]
  volatile := by simp only [isVolatile, ht.volatile, hy.volatile, hn.volatile]
  eval s := by simp only [Scalar.eval, ht.eval, hy.eval, hn.eval]

end Alike

theorem call_of_not_volatile {op : Operation} (h : op.isVolatile = false) (d d' : Date)
    (args : List Value) : op.call d args = op.call d' args := by
  unfold Operation.call
  cases op with
  | currentDate => cases h
  | _ => rfl

mutual

theorem eval_of_constant :
    ∀ {e : Scalar}, e.isConstant = true → ∀ s s' : Scope, e.eval s = e.eval s'
  | .literal _ _, _, _, _ => by simp only [eval]
  | .read _ _, h, _, _ => by cases h
  | .apply op args, h, s, s' => by
    simp only [isConstant, Bool.and_eq_true, Bool.not_eq_true'] at h
    have hargs := evalAll_of_constant h.2 s s'
    have hcall := call_of_not_volatile h.1 s.today s'.today
    simp only [eval, hargs, hcall]
  | .shortCircuit dominant l r, h, s, s' => by
    simp only [isConstant, Bool.and_eq_true] at h
    have hl := eval_of_constant h.1 s s'
    have hr := eval_of_constant h.2 s s'
    simp only [eval, hl, hr]
  | .conditional t y n type, h, s, s' => by
    simp only [isConstant, Bool.and_eq_true] at h
    have ht := eval_of_constant h.1.1 s s'
    have hy := eval_of_constant h.1.2 s s'
    have hn := eval_of_constant h.2 s s'
    simp only [eval, ht, hy, hn]

theorem evalAll_of_constant :
    ∀ {es : List Scalar}, allConstant es = true → ∀ s s' : Scope, evalAll s es = evalAll s' es
  | [], _, _, _ => by simp only [evalAll]
  | e :: es, h, s, s' => by
    simp only [allConstant, Bool.and_eq_true] at h
    have he := eval_of_constant h.1 s s'
    have hes := evalAll_of_constant h.2 s s'
    simp only [evalAll, he, hes]

end

/-- A value that is known in advance is the value in every scope. -/
theorem eval_of_known {e : Scalar} {v : Value} (h : e.known? = some v) :
    e.isConstant = true ∧ e.isVolatile = false ∧ ∀ s, e.eval s = .ok v := by
  unfold known? at h
  split at h
  · rename_i hc
    simp only [Bool.and_eq_true, Bool.not_eq_true'] at hc
    split at h
    · rename_i w hw
      cases h
      exact ⟨hc.1, hc.2, fun s => (eval_of_constant hc.1 s Scope.empty).trans hw⟩
    · cases h
  · cases h

theorem alike_fold (e : Scalar) : e.fold.Alike e := by
  unfold fold
  split
  · rename_i v hv
    have h := eval_of_known hv
    exact ⟨rfl, h.1.symm, h.2.1.symm, fun s => by rw [eval, h.2.2 s]⟩
  · exact .refl e

end Scalar

structure Plan.Alike (p q : Plan) : Prop where
  schema : p.schema = q.schema
  name : p.name = q.name
  eval : ∀ c today, p.eval c today = q.eval c today

inductive Compiled.Alike : Compiled → Compiled → Prop
  | scalar {a b : Scalar} (h : a.Alike b) : Compiled.Alike (.scalar a) (.scalar b)
  | dataset {p q : Plan} (h : p.Alike q) : Compiled.Alike (.dataset p) (.dataset q)

theorem Plan.Alike.evalAll {ps qs : List Plan} (h : List.Forall₂ Plan.Alike ps qs) (c : Context)
    (today : Date) : Plan.evalAll c today ps = Plan.evalAll c today qs := by
  induction h with
  | nil => rfl
  | cons h _ ih => simp only [Plan.evalAll, h.eval, ih]

theorem Plan.Alike.evalOption {p q : Option Plan} (h : Option.Rel Plan.Alike p q) (c : Context)
    (today : Date) : Plan.evalOption c today p = Plan.evalOption c today q := by
  cases h with
  | none => rfl
  | some h => simp only [Plan.evalOption, h.eval]

theorem Compiled.Alike.eval {a b : Compiled} (h : a.Alike b) (c : Context) (today : Date) :
    a.eval c today = b.eval c today := by
  cases h with
  | scalar h => simp only [Compiled.eval, h.eval]
  | dataset h => simp only [Compiled.eval, h.eval]

theorem Compiled.Alike.evalAll {as bs : List Compiled} (h : List.Forall₂ Compiled.Alike as bs)
    (c : Context) (today : Date) :
    Compiled.evalAll c today as = Compiled.evalAll c today bs := by
  induction h with
  | nil => rfl
  | cons h _ ih => simp only [Compiled.evalAll, h.eval, ih]

theorem Dataset.filterRows_alike {a b : Scalar} (h : a.Alike b) (s : Schema) (outer : Scope)
    (rows : List Row) : filterRows s a outer rows = filterRows s b outer rows := by
  induction rows with
  | nil => rfl
  | cons r rest ih => simp only [filterRows, h.eval, ih]

theorem Dataset.filter_alike {a b : Scalar} (h : a.Alike b) (d : Dataset) (outer : Scope) :
    d.filter a outer = d.filter b outer := by
  simp only [filter, filterRows_alike h]

structure CalcColumn.Alike (a b : CalcColumn) : Prop where
  name : a.name = b.name
  role : a.role = b.role
  expression : a.expression.Alike b.expression

namespace CalcColumn.Alike

variable {as bs : List CalcColumn}

theorem column {a b : CalcColumn} (h : a.Alike b) : a.column = b.column := by
  unfold CalcColumn.column Scalar.componentType
  rw [h.name, h.role, h.expression.type]

theorem columns (h : List.Forall₂ Alike as bs) :
    as.map (·.column) = bs.map (·.column) := by
  induction h with
  | nil => rfl
  | cons h _ ih => simp only [List.map_cons, h.column, ih]

theorem names (h : List.Forall₂ Alike as bs) : as.map (·.name) = bs.map (·.name) := by
  induction h with
  | nil => rfl
  | cons h _ ih => simp only [List.map_cons, h.name, ih]

theorem anyIdentifier (h : List.Forall₂ Alike as bs) :
    as.any (·.role == .identifier) = bs.any (·.role == .identifier) := by
  induction h with
  | nil => rfl
  | cons h _ ih => simp only [List.any_cons, h.role, ih]

theorem expressions (h : List.Forall₂ Alike as bs) :
    List.Forall₂ Scalar.Alike (as.map (·.expression)) (bs.map (·.expression)) := by
  induction h with
  | nil => exact .nil
  | cons h _ ih => exact .cons h.expression ih

end CalcColumn.Alike

section
variable {as bs : List CalcColumn} (h : List.Forall₂ CalcColumn.Alike as bs)
include h

theorem Dataset.calculateRows_alike (s : Schema) (slots : List Nat) (width : Nat) (outer : Scope)
    (rows : List Row) :
    calculateRows s as slots width outer rows = calculateRows s bs slots width outer rows := by
  have hrow : ∀ r, calculateRow s as slots width outer r = calculateRow s bs slots width outer r :=
    fun r => by simp only [calculateRow, Scalar.Alike.evalAll (CalcColumn.Alike.expressions h)]
  induction rows with
  | nil => rfl
  | cons r rest ih => simp only [calculateRows, hrow, ih]

theorem Dataset.calculate_alike (d : Dataset) (outer : Scope) :
    d.calculate as outer = d.calculate bs outer := by
  simp only [calculate, CalcColumn.Alike.columns h, CalcColumn.Alike.names h,
    calculateRows_alike h, CalcColumn.Alike.anyIdentifier h]

theorem Dataset.calculateOver_alike (d : Dataset) (calls : List WindowCall) (outer : Scope) :
    d.calculateOver calls as outer = d.calculateOver calls bs outer := by
  simp only [calculateOver, calculate_alike h]

end

structure RowRule.Alike (a b : RowRule) : Prop where
  id : a.id = b.id
  antecedent : Option.Rel Scalar.Alike a.antecedent b.antecedent
  consequent : a.consequent.Alike b.consequent
  code : a.code = b.code
  level : a.level = b.level

theorem RowRule.Alike.evaluate {a b : RowRule} (h : a.Alike b) (s : Scope) :
    a.evaluate s = b.evaluate s := by
  have ha := h.antecedent
  unfold RowRule.evaluate
  generalize a.antecedent = x, b.antecedent = y at ha
  cases ha with
  | none => exact h.consequent.eval s
  | some ha => simp only [ha.eval, h.consequent.eval]

section
variable {as bs : List RowRule} (h : List.Forall₂ RowRule.Alike as bs) (measures : List String)
  (mode : OutputMode)
include h

theorem DatapointCheck.reportRules_alike (input : Schema) (kept : List Nat) (scope : Scope)
    (r : Row) : reportRules ⟨as, measures, mode⟩ input kept scope r as =
      reportRules ⟨bs, measures, mode⟩ input kept scope r bs := by
  have hrule : ∀ {a b : RowRule}, a.Alike b → reportRule ⟨as, measures, mode⟩ input kept scope r a =
      reportRule ⟨bs, measures, mode⟩ input kept scope r b :=
    fun h => by simp only [reportRule, h.evaluate, h.id, h.code, h.level]
  have hall : ∀ {xs ys : List RowRule}, List.Forall₂ RowRule.Alike xs ys →
      reportRules ⟨as, measures, mode⟩ input kept scope r xs =
        reportRules ⟨bs, measures, mode⟩ input kept scope r ys := by
    intro xs ys hxy
    induction hxy with
    | nil => rfl
    | cons hx _ ih => simp only [reportRules, hrule hx, ih]
  exact hall h

theorem DatapointCheck.reportRows_alike (input : Schema) (kept : List Nat) (outer : Scope)
    (rows : List Row) : reportRows ⟨as, measures, mode⟩ input kept outer rows =
      reportRows ⟨bs, measures, mode⟩ input kept outer rows := by
  induction rows with
  | nil => rfl
  | cons r rest ih => simp only [reportRows, reportRules_alike h, ih]

theorem DatapointCheck.evaluate_alike (outer : Scope) (d : Dataset) :
    evaluate ⟨as, measures, mode⟩ outer d = evaluate ⟨bs, measures, mode⟩ outer d := by
  simp only [evaluate, reportRows_alike h]
  rfl

end

section
variable {c c' l l' : Scalar} (hc : c.Alike c') (hl : l.Alike l') (mode : OutputMode)
include hc hl

theorem Check.reportRows_alike (s : Schema) (column : Nat) (others : Keyed Value) (outer : Scope)
    (rows : List Row) : reportRows ⟨c, l, mode⟩ s column others outer rows =
      reportRows ⟨c', l', mode⟩ s column others outer rows := by
  have hrow : ∀ r, reportRow ⟨c, l, mode⟩ s column others outer r =
      reportRow ⟨c', l', mode⟩ s column others outer r :=
    fun r => by simp only [reportRow, errorCells, hc.eval, hl.eval]
  induction rows with
  | nil => rfl
  | cons r rest ih => simp only [reportRows, hrow, ih]

theorem Check.evaluate_alike (outer : Scope) (d : Dataset) (imbalance : Option Dataset) :
    evaluate ⟨c, l, mode⟩ outer d imbalance = evaluate ⟨c', l', mode⟩ outer d imbalance := by
  simp only [evaluate, Check.rows, reportRows_alike hc hl]

end
end Tabular
