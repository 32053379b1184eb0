import Mathlib.Data.List.Forall2
import Tabular.Compile.Expr
import Tabular.Proofs.Outcome

set_option autoImplicit false

/-!
# The compilation judgement

`Compiles env f e c` says that `e` is accepted in the frame `f` and becomes `c`. There is one rule
for each node. The rules of a ruleset are compiled in the frame of its variables, so a derivation
can be larger than the expression, but it is finite: nothing is derived for an expression whose
compilation does not end.
-/
namespace Tabular.Compile

/-- Items of a calculation with what they become, of which `n` window functions have been seen.
    `bodies` are the expressions that are compiled on the way, with their results. -/
inductive Items (source : Plan) :
    Nat → List CalcItem → List (Expr × Scalar) → List Calculated → Prop
  | nil (n : Nat) : Items source n [] [] []
  | window {n : Nat} {name : String} {role : Option Role} {p q : Position} {fn : WindowFunction}
      {component : String} {extent : Extent} {item : Calculated} {rest : List CalcItem}
      {bodies : List (Expr × Scalar)} {items : List Calculated}
      (hname : checkItem source.schema name = .ok ())
      (hitem : windowItem source name role n fn component extent = .ok item)
      (hrest : Items source (n + 1) rest bodies items) :
      Items source n (.mk name role (.window p fn (.name q component) extent) :: rest) bodies
        (item :: items)
  | plain {n : Nat} {name : String} {role : Option Role} {e : Expr} {s : Scalar}
      {rest : List CalcItem} {bodies : List (Expr × Scalar)} {items : List Calculated}
      (hname : checkItem source.schema name = .ok ())
      (hplain : ∀ p fn operand extent, e ≠ .window p fn operand extent)
      (hrest : Items source n rest bodies items) :
      Items source n (.mk name role e :: rest) ((e, s) :: bodies)
        (⟨⟨name, itemRole source.schema name role, s⟩, none⟩ :: items)

inductive Rules : List DatapointRule → List (Expr × Scalar) → List RowRule → Prop
  | nil : Rules [] [] []
  | always {id : String} {e : Expr} {s : Scalar} {code : Option String} {level : Option Int64}
      {rest : List DatapointRule} {bodies : List (Expr × Scalar)} {rules : List RowRule}
      (hs : Typing.expect id s.type? .boolean = .ok ()) (hrest : Rules rest bodies rules) :
      Rules (⟨id, none, e, code, level⟩ :: rest) ((e, s) :: bodies)
        (⟨id, none, s, code, level⟩ :: rules)
  | guarded {id : String} {a e : Expr} {t s : Scalar} {code : Option String} {level : Option Int64}
      {rest : List DatapointRule} {bodies : List (Expr × Scalar)} {rules : List RowRule}
      (ht : Typing.expect id t.type? .boolean = .ok ())
      (hs : Typing.expect id s.type? .boolean = .ok ()) (hrest : Rules rest bodies rules) :
      Rules (⟨id, some a, e, code, level⟩ :: rest) ((a, t) :: (e, s) :: bodies)
        (⟨id, some t, s, code, level⟩ :: rules)

def OptionalScalar (type : ScalarType) (arg : Option Expr) (s : Scalar) : Prop :=
  (arg = none → s = .literal .null (some type)) ∧
    (arg.isSome → Typing.expect "check" s.type? type = .ok ())

inductive Compiles (env : Env) : Frame → Expr → Compiled → Prop
  | literal {f : Frame} {p : Position} {v : Value} :
      Compiles env f (.literal p v) (.scalar (.ofValue v))
  | name {f : Frame} {p : Position} {n : String} {c : Compiled} (h : env.name f n = .ok c) :
      Compiles env f (.name p n) c
  | unary {f : Frame} {p : Position} {op : UnaryOp} {e : Expr} {a c : Compiled}
      (he : Compiles env f e a) (h : env.lift (unaryBuilder op) [a] = .ok c) :
      Compiles env f (.unary p op e) c
  | binary {f : Frame} {p : Position} {op : BinaryOp} {l r : Expr} {a b c : Compiled}
      (hl : Compiles env f l a) (hr : Compiles env f r b) (h : env.binary op a b = .ok c) :
      Compiles env f (.binary p op l r) c
  | conditional {f : Frame} {p : Position} {t y n : Expr} {test yes no : Scalar} {c : Compiled}
      (ht : Compiles env f t (.scalar test)) (hy : Compiles env f y (.scalar yes))
      (hn : Compiles env f n (.scalar no)) (h : env.conditional test yes no = .ok c) :
      Compiles env f (.conditional p t y n) c
  | cast {f : Frame} {p : Position} {e : Expr} {target : ScalarType} {a c : Compiled}
      (he : Compiles env f e a) (h : env.lift (castBuilder target) [a] = .ok c) :
      Compiles env f (.cast p e target) c
  | call {f : Frame} {p : Position} {fn : ScalarFunction} {args : List Expr} {as : List Compiled}
      {c : Compiled} (hlen : args.length = as.length)
      (hargs : ∀ e a, (e, a) ∈ args.zip as → Compiles env f e a)
      (h : env.lift (fun types => fn.operation env.config.patterns types (as.map known?)) as =
        .ok c) :
      Compiles env f (.call p (.scalar fn) args) c
  | member {f : Frame} {p : Position} {e : Expr} {set : List Value} {negated : Bool}
      {a c : Compiled} (he : Compiles env f e a)
      (h : env.lift (memberBuilder set negated) [a] = .ok c) :
      Compiles env f (.member p e set negated) c
  | select {f : Frame} {p : Position} {e : Expr} {component : String} {source plan : Plan}
      (he : Compiles env f e (.dataset source)) (h : selectPlan source component = .ok plan) :
      Compiles env f (.select p e component) (.dataset plan)
  | filter {f : Frame} {p : Position} {e condition : Expr} {source : Plan} {c : Scalar}
      (he : Compiles env f e (.dataset source))
      (hc : Compiles env (Frame.ofSchema source.schema) condition (.scalar c))
      (ht : Typing.expect "filter" c.type? .boolean = .ok ()) :
      Compiles env f (.filter p e condition) (.dataset (.filter source c))
  | keep {f : Frame} {p : Position} {e : Expr} {names : List String} {source plan : Plan}
      (he : Compiles env f e (.dataset source)) (h : projectPlan source names true = .ok plan) :
      Compiles env f (.keep p e names) (.dataset plan)
  | drop {f : Frame} {p : Position} {e : Expr} {names : List String} {source plan : Plan}
      (he : Compiles env f e (.dataset source)) (h : projectPlan source names false = .ok plan) :
      Compiles env f (.drop p e names) (.dataset plan)
  | rename {f : Frame} {p : Position} {e : Expr} {pairs : List (String × String)}
      {source plan : Plan} (he : Compiles env f e (.dataset source))
      (h : renamePlan source pairs = .ok plan) :
      Compiles env f (.rename p e pairs) (.dataset plan)
  | calculate {f : Frame} {p : Position} {e : Expr} {items : List CalcItem}
      {bodies : List (Expr × Scalar)} {calculated : List Calculated} {source plan : Plan}
      (he : Compiles env f e (.dataset source)) (hitems : Items source 0 items bodies calculated)
      (hbodies : ∀ e s, (e, s) ∈ bodies →
        Compiles env (Frame.ofSchema source.schema) e (.scalar s))
      (h : calculatePlan source calculated = .ok plan) :
      Compiles env f (.calculate p e items) (.dataset plan)
  | combine {f : Frame} {p : Position} {op : SetOp} {es : List Expr} {plans : List Plan}
      {plan : Plan} (hcount : op.admits es.length = true) (hlen : es.length = plans.length)
      (hes : ∀ e q, (e, q) ∈ es.zip plans → Compiles env f e (.dataset q))
      (h : combinePlan op plans = .ok plan) :
      Compiles env f (.combine p op es) (.dataset plan)
  | window {f : Frame} {p : Position} {fn : WindowFunction} {e : Expr} {extent : Extent}
      {source plan : Plan} (he : Compiles env f e (.dataset source))
      (h : windowPlan fn extent source = .ok plan) :
      Compiles env f (.window p fn e extent) (.dataset plan)
  | checkDatapoint {f : Frame} {p : Position} {e : Expr} {ruleset : String}
      {components : List String} {mode : OutputMode} {source plan : Plan} {rs : DatapointRuleset}
      {inner : Frame} {bodies : List (Expr × Scalar)} {rules : List RowRule}
      (he : Compiles env f e (.dataset source)) (hrs : env.datapointRuleset ruleset = .ok rs)
      (hframe : rulesetFrame rs source components = .ok inner)
      (hrules : Rules rs.rules bodies rules)
      (hbodies : ∀ e s, (e, s) ∈ bodies → Compiles env inner e (.scalar s))
      (h : checkDatapointPlan source inner rules mode = .ok plan) :
      Compiles env f (.checkDatapoint p e ruleset components mode) (.dataset plan)
  | check {f : Frame} {p : Position} {e : Expr} {code level imbalance : Option Expr}
      {invalid : Bool} {condition : Plan} {measure : Component} {other : Option Plan}
      {type : Option ScalarType} {c l : Scalar} {plan : Plan}
      (he : Compiles env f e (.dataset condition))
      (hmeasure : Check.booleanMeasure condition.schema condition.name = .ok measure)
      (hsome : imbalance.isSome = other.isSome)
      (hother : ∀ i q, imbalance = some i → other = some q → Compiles env f i (.dataset q))
      (htype : imbalanceType other = .ok type)
      (hcode : ∀ i, code = some i → Compiles env f i (.scalar c))
      (hc : OptionalScalar .string code c)
      (hlevel : ∀ i, level = some i → Compiles env f i (.scalar l))
      (hl : OptionalScalar .integer level l)
      (h : checkPlan condition other type c l invalid = .ok plan) :
      Compiles env f (.check p e code level imbalance invalid) (.dataset plan)
  | checkHierarchy {f : Frame} {p : Position} {e : Expr} {ruleset : String}
      {component : Option String} {validation : ValidationMode} {input : InputMode}
      {output : OutputMode} {source plan : Plan} {rs : HierarchicalRuleset}
      (he : Compiles env f e (.dataset source)) (hrs : env.hierarchicalRuleset ruleset = .ok rs)
      (h : checkHierarchyPlan env.config source rs component validation input output = .ok plan) :
      Compiles env f (.checkHierarchy p e ruleset component validation input output) (.dataset plan)

end Tabular.Compile
