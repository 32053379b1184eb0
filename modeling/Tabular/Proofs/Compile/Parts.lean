import Tabular.Proofs.Compile.Judgement

set_option autoImplicit false

namespace Tabular.Compile

def first? : Expr → Option Expr
  | .unary _ _ e => some e
  | .binary _ _ l _ => some l
  | .conditional _ t _ _ => some t
  | .cast _ e _ => some e
  | .member _ e _ _ => some e
  | .select _ e _ => some e
  | .filter _ e _ => some e
  | .keep _ e _ => some e
  | .drop _ e _ => some e
  | .rename _ e _ => some e
  | .calculate _ e _ => some e
  | .window _ _ e _ => some e
  | .checkDatapoint _ e _ _ _ => some e
  | .check _ e _ _ _ _ => some e
  | .checkHierarchy _ e _ _ _ _ _ => some e
  | .literal _ _ => none
  | .name _ _ => none
  | .call _ _ _ => none
  | .combine _ _ _ => none

section
variable {α β : Type}

/-- `b` belongs to an element of the list before which all are done. -/
inductive Reached (Done : α → Prop) (Part : α → β → Prop) : List α → β → Prop
  | here {x : α} {xs : List α} {b : β} (h : Part x b) : Reached Done Part (x :: xs) b
  | later {x : α} {xs : List α} {b : β} (hx : Done x) (h : Reached Done Part xs b) :
      Reached Done Part (x :: xs) b

end

def Truth (env : Env) (f : Frame) (id : String) (e : Expr) : Prop :=
  ∃ s, Compiles env f e (.scalar s) ∧ Typing.expect id s.type? .boolean = .ok ()

def AntecedentDone (env : Env) (f : Frame) (r : DatapointRule) : Prop :=
  ∀ a, r.antecedent = some a → Truth env f r.id a

def RuleDone (env : Env) (f : Frame) (r : DatapointRule) : Prop :=
  AntecedentDone env f r ∧ Truth env f r.id r.consequent

/-- The antecedent of a rule, or its consequent once the antecedent is done. -/
def RulePart (env : Env) (f : Frame) (r : DatapointRule) (e : Expr) : Prop :=
  r.antecedent = some e ∨ AntecedentDone env f r ∧ e = r.consequent

def Plain (e : Expr) : Prop := ∀ p fn operand extent, e ≠ .window p fn operand extent

def ItemDone (env : Env) (source : Plan) : CalcItem → Prop
  | .mk name role e => checkItem source.schema name = .ok () ∧
    ((∃ p fn q component extent n item, e = .window p fn (.name q component) extent ∧
        windowItem source name role n fn component extent = .ok item) ∨
      Plain e ∧ ∃ s, Compiles env (Frame.ofSchema source.schema) e (.scalar s))

def ItemPart (source : Plan) : CalcItem → Expr → Prop
  | .mk name _ e, i => checkItem source.schema name = .ok () ∧ Plain e ∧ i = e

/-- The condition of a check and its imbalance are done. -/
def CheckDone (env : Env) (f : Frame) (e : Expr) (imbalance : Option Expr) : Prop :=
  ∃ condition measure other type, Compiles env f e (.dataset condition) ∧
    Check.booleanMeasure condition.schema condition.name = .ok measure ∧
    imbalance.isSome = other.isSome ∧
    (∀ i q, imbalance = some i → other = some q → Compiles env f i (.dataset q)) ∧
    imbalanceType other = .ok type

inductive Begins (env : Env) : Frame × Expr → Frame × Expr → Prop
  | first {f : Frame} {e i : Expr} (h : first? e = some i) : Begins env (f, e) (f, i)
  | right {f : Frame} {p : Position} {op : BinaryOp} {l r : Expr} {a : Compiled}
      (hl : Compiles env f l a) : Begins env (f, .binary p op l r) (f, r)
  | yes {f : Frame} {p : Position} {t y n : Expr} {test : Scalar}
      (ht : Compiles env f t (.scalar test)) : Begins env (f, .conditional p t y n) (f, y)
  | no {f : Frame} {p : Position} {t y n : Expr} {test yes : Scalar}
      (ht : Compiles env f t (.scalar test)) (hy : Compiles env f y (.scalar yes)) :
      Begins env (f, .conditional p t y n) (f, n)
  | argument {f : Frame} {p : Position} {fn : ScalarFunction} {args : List Expr} {e : Expr}
      (h : Reached (fun i => ∃ a, Compiles env f i a) Eq args e) :
      Begins env (f, .call p (.scalar fn) args) (f, e)
  | condition {f : Frame} {p : Position} {e c : Expr} {source : Plan}
      (he : Compiles env f e (.dataset source)) :
      Begins env (f, .filter p e c) (Frame.ofSchema source.schema, c)
  | item {f : Frame} {p : Position} {e i : Expr} {items : List CalcItem} {source : Plan}
      (he : Compiles env f e (.dataset source))
      (h : Reached (ItemDone env source) (ItemPart source) items i) :
      Begins env (f, .calculate p e items) (Frame.ofSchema source.schema, i)
  | operand {f : Frame} {p : Position} {op : SetOp} {es : List Expr} {e : Expr}
      (hcount : op.admits es.length = true)
      (h : Reached (fun i => ∃ q, Compiles env f i (.dataset q)) Eq es e) :
      Begins env (f, .combine p op es) (f, e)
  | rule {f inner : Frame} {p : Position} {e i : Expr} {ruleset : String}
      {components : List String} {mode : OutputMode} {source : Plan} {rs : DatapointRuleset}
      (he : Compiles env f e (.dataset source)) (hrs : env.datapointRuleset ruleset = .ok rs)
      (hframe : rulesetFrame rs source components = .ok inner)
      (h : Reached (RuleDone env inner) (RulePart env inner) rs.rules i) :
      Begins env (f, .checkDatapoint p e ruleset components mode) (inner, i)
  | imbalance {f : Frame} {p : Position} {e i : Expr} {code level : Option Expr} {invalid : Bool}
      {condition : Plan} {measure : Component} (he : Compiles env f e (.dataset condition))
      (hmeasure : Check.booleanMeasure condition.schema condition.name = .ok measure) :
      Begins env (f, .check p e code level (some i) invalid) (f, i)
  | code {f : Frame} {p : Position} {e i : Expr} {level imbalance : Option Expr} {invalid : Bool}
      (h : CheckDone env f e imbalance) :
      Begins env (f, .check p e (some i) level imbalance invalid) (f, i)
  | level {f : Frame} {p : Position} {e i : Expr} {code imbalance : Option Expr} {invalid : Bool}
      {c : Scalar} (h : CheckDone env f e imbalance)
      (hcode : ∀ j, code = some j → Compiles env f j (.scalar c))
      (hc : OptionalScalar .string code c) :
      Begins env (f, .check p e code (some i) imbalance invalid) (f, i)

end Tabular.Compile
