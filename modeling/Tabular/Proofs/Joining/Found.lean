import Tabular.Operation.Call
import Tabular.Proofs.Outcome
import Tabular.Rules.Check
import Tabular.Rules.Datapoint
import Tabular.Rules.Hierarchy
import Tabular.Window.Evaluate

set_option autoImplicit false

namespace Tabular

/-- If this fails, then not because a component is looked up in vain. -/
def Finds {α : Type} (x : Except EvalError α) : Prop :=
  ∀ n, x ≠ .error (.model (.unknownComponent n))

namespace Finds

variable {α β : Type}

theorem ok (a : α) : Finds (.ok a) := nofun

theorem error {e : EvalError} (h : ∀ {n}, e ≠ .model (.unknownComponent n)) :
    Finds (.error e : Except EvalError α) := by
  intro n he
  cases he
  exact h rfl

theorem bind {x : Except EvalError α} {next : α → Except EvalError β} (hx : Finds x)
    (hn : ∀ a, x = .ok a → Finds (next a)) : Finds (x >>= next) := by
  cases x with
  | ok a => exact hn a rfl
  | error e =>
    intro n h
    cases h
    exact hx n rfl

theorem map {x : Except EvalError α} (hx : Finds x) (f : α → β) : Finds (x.map f) := by
  cases x with
  | ok a => exact ok (f a)
  | error e =>
    intro n h
    cases h
    exact hx n rfl

theorem lift_bind {x : Except ModelError α} {next : α → Except ModelError β}
    (hx : Finds (liftModel x)) (hn : ∀ a, x = .ok a → Finds (liftModel (next a))) :
    Finds (liftModel (x >>= next)) := by
  cases x with
  | ok a => exact hn a rfl
  | error e =>
    intro n h
    cases h
    exact hx n rfl

end Finds

namespace Value

variable (v : Value)

theorem finds_expectNumber : Finds v.expectNumber := by
  unfold expectNumber
  split <;> exact nofun

theorem finds_expectInteger : Finds v.expectInteger := by
  unfold expectInteger
  split <;> exact nofun

theorem finds_expectBoolean : Finds v.expectBoolean := by
  unfold expectBoolean
  split <;> exact nofun

theorem finds_expectString : Finds v.expectString := by
  unfold expectString
  split <;> exact nofun

theorem finds_cast (t : ScalarType) : Finds (v.cast t) := by
  unfold cast
  split
  · exact .ok v
  · split <;> exact nofun

end Value

namespace Operation

open Value

theorem finds_checked (operation : String) (n : Int) : Finds (checked operation n) := by
  unfold checked
  split <;> exact nofun

theorem finds_evalArithmetic (op : Arithmetic) (t : ScalarType) (a b : Value) :
    Finds (evalArithmetic op t a b) := by
  unfold evalArithmetic
  split
  · exact (finds_expectInteger a).bind fun _ _ => (finds_expectInteger b).bind fun _ _ =>
      finds_checked _ _
  · exact (finds_expectNumber a).bind fun _ _ => (finds_expectNumber b).bind fun _ _ => .ok _

theorem finds_evalDivide (a b : Value) : Finds (evalDivide a b) := by
  refine (finds_expectNumber a).bind fun x _ => (finds_expectNumber b).bind fun y _ => ?_
  split <;> exact nofun

theorem finds_evalMinus (v : Value) : Finds (evalMinus v) := by
  unfold evalMinus
  split
  · exact finds_checked _ _
  · exact nofun
  · exact nofun

theorem finds_evalAbs (v : Value) : Finds (evalAbs v) := by
  unfold evalAbs
  split
  · exact finds_checked _ _
  · exact (finds_expectNumber _).bind fun _ _ => .ok _

theorem finds_wholeInteger (operation : String) (x : Number) :
    Finds (wholeInteger operation x) := by
  unfold wholeInteger
  split
  · split <;> exact nofun
  · exact nofun

theorem finds_decimalScale (digits : Option Value) : Finds (decimalScale digits) := by
  unfold decimalScale
  split
  · exact .ok _
  · exact (finds_expectInteger _).bind fun _ _ => .ok _

theorem finds_expectPositive (operation : String) (x : Number) :
    Finds (expectPositive operation x) := by
  unfold expectPositive
  split <;> exact nofun

theorem finds_evalModulo (t : ScalarType) (a b : Value) : Finds (evalModulo t a b) := by
  unfold evalModulo
  split
  · refine (finds_expectInteger a).bind fun x _ => (finds_expectInteger b).bind fun y _ => ?_
    split
    · exact nofun
    · split <;> exact nofun
  · refine (finds_expectNumber a).bind fun x _ => (finds_expectNumber b).bind fun y _ => ?_
    split <;> exact nofun

theorem finds_optionalInteger (v : Option Value) (default : Int) :
    Finds (optionalInteger v default) := by
  unfold optionalInteger
  split
  · exact .ok _
  · exact (finds_expectInteger _).bind fun _ _ => .ok _

theorem finds_evalSubstring (s : Value) (start length : Option Value) :
    Finds (evalSubstring s start length) := by
  refine (finds_expectString s).bind fun s _ => (finds_optionalInteger start 1).bind fun i _ => ?_
  split
  · exact nofun
  · split
    · exact .ok _
    · refine (finds_expectInteger _).bind fun n _ => ?_
      split <;> exact nofun

theorem finds_evalReplace (s pattern : Value) (replacement : Option Value) :
    Finds (evalReplace s pattern replacement) := by
  refine (finds_expectString s).bind fun s _ => (finds_expectString pattern).bind fun p _ => ?_
  dsimp only
  split
  · exact .ok _
  · exact (finds_expectString _).bind fun _ _ => .ok _

theorem finds_evalFind (s pattern : Value) (start occurrence : Option Value) :
    Finds (evalFind s pattern start occurrence) := by
  refine (finds_expectString s).bind fun s _ => (finds_expectString pattern).bind fun p _ => ?_
  refine (finds_optionalInteger start 1).bind fun i _ => ?_
  refine (finds_optionalInteger occurrence 1).bind fun n _ => ?_
  split <;> exact nofun

theorem finds_evalMatching (reader : PatternReader) (pattern : Option (String → Bool))
    (s source : Value) : Finds (evalMatching reader pattern s source) := by
  refine (finds_expectString s).bind fun s _ => ?_
  split
  · exact .ok _
  · refine (finds_expectString source).bind fun text _ => Finds.bind ?_ fun _ _ => .ok _
    unfold compilePattern
    split <;> exact nofun

theorem finds_evalLog (x base : Value) : Finds (evalLog x base) := by
  refine (finds_expectNumber x).bind fun x _ => (finds_expectPositive "log" x).bind fun x _ => ?_
  refine (finds_expectNumber base).bind fun b _ => (finds_expectPositive "log" b).bind fun b _ => ?_
  split <;> exact nofun

theorem finds_evalSqrt (x : Value) : Finds (evalSqrt x) := by
  refine (finds_expectNumber x).bind fun x _ => ?_
  split <;> exact nofun

theorem finds_evalRound (d : Number.Direction) (x : Value) (digits : Option Value) :
    Finds (evalRound d x digits) :=
  (finds_decimalScale digits).bind fun _ _ => (finds_expectNumber x).bind fun _ _ => .ok _

theorem finds_compute (op : Operation) (today : Date) (args : List Value) :
    Finds (op.compute today args) := by
  unfold compute
  cases op with
  | minus _ => exact finds_evalMinus _
  | not => exact (finds_expectBoolean _).map _
  | arithmetic op t => exact finds_evalArithmetic op t _ _
  | divide => exact finds_evalDivide _ _
  | cast t => exact finds_cast _ t
  | length => exact (finds_expectString _).map _
  | upper => exact (finds_expectString _).map _
  | lower => exact (finds_expectString _).map _
  | trim => exact (finds_expectString _).map _
  | trimStart => exact (finds_expectString _).map _
  | trimEnd => exact (finds_expectString _).map _
  | substring => exact finds_evalSubstring _ _ _
  | replace => exact finds_evalReplace _ _ _
  | find => exact finds_evalFind _ _ _ _
  | matching reader pattern => exact finds_evalMatching reader pattern _ _
  | abs _ => exact finds_evalAbs _
  | ceil => exact (finds_expectNumber _).bind fun _ _ => finds_wholeInteger _ _
  | floor => exact (finds_expectNumber _).bind fun _ _ => finds_wholeInteger _ _
  | round => exact finds_evalRound _ _ _
  | trunc => exact finds_evalRound _ _ _
  | sqrt => exact finds_evalSqrt _
  | exp => exact (finds_expectNumber _).map _
  | ln =>
    exact (finds_expectNumber _).bind fun _ _ => (finds_expectPositive _ _).bind fun _ _ => .ok _
  | log => exact finds_evalLog _ _
  | power =>
    exact (finds_expectNumber _).bind fun _ _ => (finds_expectNumber _).bind fun _ _ => .ok _
  | modulo t => exact finds_evalModulo t _ _
  | editDistance =>
    exact (finds_expectString _).bind fun _ _ => (finds_expectString _).bind fun _ _ => .ok _
  | _ => exact .ok _

theorem finds_call (op : Operation) (today : Date) (args : List Value) :
    Finds (op.call today args) := by
  unfold call
  split
  · exact .ok _
  · exact finds_compute op today args

end Operation

namespace Scalar

mutual

theorem finds_eval (s : Scope) : ∀ e : Scalar, Finds (e.eval s)
  | .literal v _ => .ok v
  | .read n _ => by
    rw [eval]
    split <;> exact nofun
  | .apply op args => by
    rw [eval]
    exact (finds_evalAll s args).bind fun vs _ => op.finds_call s.today vs
  | .shortCircuit dominant l r => by
    rw [eval]
    refine (finds_eval s l).bind fun a _ => ?_
    split
    · exact .ok _
    · exact (finds_eval s r).bind fun _ _ => .ok _
  | .conditional t y n _ => by
    rw [eval]
    refine (finds_eval s t).bind fun c _ => ?_
    split
    · exact finds_eval s y
    · exact finds_eval s n

theorem finds_evalAll (s : Scope) : ∀ es : List Scalar, Finds (evalAll s es)
  | [] => .ok []
  | e :: es => by
    rw [evalAll]
    exact (finds_eval s e).bind fun _ _ => (finds_evalAll s es).bind fun _ _ => .ok _

end

end Scalar

namespace WindowFunction

theorem finds_aggregate (f : WindowFunction) (frame : List Value) (measure : ScalarType) :
    Finds (f.aggregate frame measure) := by
  have hnumbers : ∀ xs, Finds (f.aggregateNumbers frame xs measure) := by
    intro xs
    unfold aggregateNumbers
    split
    · split
      · split <;> exact nofun
      · exact .ok _
    all_goals exact nofun
  unfold aggregate
  split
  case h_6 =>
    dsimp only
    split
    · exact .ok _
    · exact hnumbers _
  all_goals exact .ok _

end WindowFunction

namespace Window

variable {c : WindowCall} {measure : ScalarType} {source : Nat} {columns : SortColumns}

theorem finds_evaluateFrom (f : WindowFunction) (sorted : List Member) (frame : Nat → Frame)
    (pos : Nat) (rest : List Member) :
    Finds (evaluateFrom f measure source sorted frame pos rest) := by
  induction rest generalizing pos with
  | nil => exact .ok []
  | cons m rest ih => exact (f.finds_aggregate _ _).bind fun _ _ => (ih _).bind fun _ _ => .ok _

theorem finds_evaluatePartition (members : List Member) :
    Finds (evaluatePartition c measure source columns members) := by
  refine Finds.bind ?_ fun keys _ => finds_evaluateFrom _ _ _ _ _
  unfold rangeKeys
  split <;> exact nofun

theorem finds_evaluatePartitions (partitions : Keyed (List Member)) :
    Finds (evaluatePartitions c measure source columns partitions) := by
  induction partitions with
  | nil => exact .ok []
  | cons p rest ih =>
    exact (finds_evaluatePartition p.2).bind fun _ _ => ih.bind fun _ _ => .ok _

end Window

theorem DatapointCheck.finds_reportRows (c : DatapointCheck) (input : Schema) (kept : List Nat)
    (outer : Scope) (rows : List Row) : Finds (c.reportRows input kept outer rows) := by
  have hrule : ∀ (rule : RowRule) (s : Scope), Finds (rule.evaluate s) := by
    intro rule s
    unfold RowRule.evaluate
    split
    · exact rule.consequent.finds_eval s
    · refine (Scalar.finds_eval s _).bind fun v _ => ?_
      split
      · exact rule.consequent.finds_eval s
      · exact .ok _
  have hrules : ∀ (r : Row) (s : Scope) (rules : List RowRule),
      Finds (c.reportRules input kept s r rules) := by
    intro r s rules
    induction rules with
    | nil => exact .ok []
    | cons rule rest ih =>
      refine Finds.bind ((hrule rule s).bind fun result _ => ?_) fun _ _ => ih.bind fun _ _ => .ok _
      split <;> exact nofun
  induction rows with
  | nil => exact .ok []
  | cons r rest ih => exact (hrules r _ c.rules).bind fun _ _ => ih.bind fun _ _ => .ok _

theorem Check.finds_reportRows (c : Check) (s : Schema) (column : Nat) (others : Keyed Value)
    (outer : Scope) (rows : List Row) : Finds (c.reportRows s column others outer rows) := by
  have herrors : ∀ scope failed, Finds (c.errorCells scope failed) := by
    intro scope failed
    unfold errorCells
    split
    · exact (c.code.finds_eval scope).bind fun _ _ =>
        (c.level.finds_eval scope).bind fun _ _ => .ok _
    · exact .ok _
  induction rows with
  | nil => exact .ok []
  | cons r rest ih =>
    refine Finds.bind ?_ fun _ _ => ih.bind fun _ _ => .ok _
    unfold reportRow
    dsimp only
    split
    · exact (herrors _ _).bind fun _ _ => .ok _
    · exact .ok _

namespace HierarchyCheck

theorem finds_combine (sign : Sign) (a b : Value) : Finds (combine sign a b) := by
  unfold combine
  split
  · exact .ok _
  · exact .ok _
  · split <;> exact nofun
  · split <;> exact nofun

theorem finds_evaluateRule (o : HierarchyOptions) (type : ScalarType)
    (value : String → Option Value) (rule : HierarchyRule) :
    Finds (evaluateRule o type value rule) := by
  have htotal : ∀ (missing acc : Value) (items : List (Sign × Option Value)),
      Finds (total missing acc items) := by
    intro missing acc items
    induction items generalizing acc with
    | nil => exact .ok acc
    | cons p rest ih => exact (finds_combine _ _ _).bind fun next _ => ih next
  unfold evaluateRule
  dsimp only
  split
  · exact (htotal _ _ _).bind fun _ _ => (finds_combine _ _ _).bind fun _ _ => .ok _
  · exact .ok none

theorem finds_reportGroups (c : HierarchyCheck) (input : Schema) (k : Columns)
    (gs : Keyed (List Row)) : Finds (c.reportGroups input k gs) := by
  have hgroup : ∀ (members : List Row) (rules : List HierarchyRule),
      Finds (c.reportGroup input k members rules) := by
    intro members rules
    induction rules with
    | nil => exact .ok []
    | cons rule rest ih =>
      refine Finds.bind ((finds_evaluateRule _ _ _ _).bind fun result _ => ?_) fun _ _ =>
        ih.bind fun _ _ => .ok _
      split
      · exact .ok none
      · split <;> exact nofun
  induction gs with
  | nil => exact .ok []
  | cons g rest ih => exact (hgroup g.2 c.rules).bind fun _ _ => ih.bind fun _ _ => .ok _

end HierarchyCheck
end Tabular
