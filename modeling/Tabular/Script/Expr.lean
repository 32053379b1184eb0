import Tabular.Operation.Basic
import Tabular.Rules.Mode
import Tabular.Script.Function
import Tabular.Transform.Combine
import Tabular.Window.Function

set_option autoImplicit false

namespace Tabular

structure Position where
  line : Nat := 0
  column : Nat := 0
  deriving DecidableEq, Repr

def Position.render (p : Position) : String := s!"line {p.line}, column {p.column}"

structure Extent where
  partitionBy : List String := []
  orderBy : List OrderItem := []
  window : Option Window := none
  deriving DecidableEq, Repr

mutual

inductive Expr where
  | literal (pos : Position) (value : Value)
  | name (pos : Position) (name : String)
  | unary (pos : Position) (op : UnaryOp) (operand : Expr)
  | binary (pos : Position) (op : BinaryOp) (left right : Expr)
  | conditional (pos : Position) (test yes no : Expr)
  | cast (pos : Position) (operand : Expr) (target : ScalarType)
  | call (pos : Position) (function : Function) (args : List Expr)
  | member (pos : Position) (operand : Expr) (set : List Value) (negated : Bool)
  /-- One component of a dataset. -/
  | select (pos : Position) (dataset : Expr) (component : String)
  | filter (pos : Position) (dataset condition : Expr)
  | keep (pos : Position) (dataset : Expr) (names : List String)
  | drop (pos : Position) (dataset : Expr) (names : List String)
  | rename (pos : Position) (dataset : Expr) (pairs : List (String × String))
  | calculate (pos : Position) (dataset : Expr) (items : List CalcItem)
  | combine (pos : Position) (op : SetOp) (operands : List Expr)
  | window (pos : Position) (function : WindowFunction) (operand : Expr) (extent : Extent)
  /-- Rows against a named datapoint ruleset. -/
  | checkDatapoint (pos : Position) (dataset : Expr) (ruleset : String)
      (components : List String) (mode : OutputMode)
  | check (pos : Position) (condition : Expr) (code level imbalance : Option Expr)
      (invalid : Bool)
  /-- Groups against a named hierarchical ruleset. -/
  | checkHierarchy (pos : Position) (dataset : Expr) (ruleset : String)
      (component : Option String) (validation : ValidationMode) (input : InputMode)
      (output : OutputMode)

/-- A component to calculate; without a role it keeps the role it has, or becomes a measure. -/
inductive CalcItem where
  | mk (name : String) (role : Option Role) (expr : Expr)

end

namespace Expr

def position : Expr → Position
  | .literal p _ => p
  | .name p _ => p
  | .unary p _ _ => p
  | .binary p _ _ _ => p
  | .conditional p _ _ _ => p
  | .cast p _ _ => p
  | .call p _ _ => p
  | .member p _ _ _ => p
  | .select p _ _ => p
  | .filter p _ _ => p
  | .keep p _ _ => p
  | .drop p _ _ => p
  | .rename p _ _ => p
  | .calculate p _ _ => p
  | .combine p _ _ => p
  | .window p _ _ _ => p
  | .checkDatapoint p _ _ _ _ => p
  | .check p _ _ _ _ _ => p
  | .checkHierarchy p _ _ _ _ _ _ => p

def moveTo (p : Position) : Expr → Expr
  | .literal _ v => .literal p v
  | .name _ n => .name p n
  | .unary _ op e => .unary p op e
  | .binary _ op l r => .binary p op l r
  | .conditional _ t y n => .conditional p t y n
  | .cast _ e t => .cast p e t
  | .call _ f es => .call p f es
  | .member _ e set negated => .member p e set negated
  | .select _ e c => .select p e c
  | .filter _ e c => .filter p e c
  | .keep _ e ns => .keep p e ns
  | .drop _ e ns => .drop p e ns
  | .rename _ e ps => .rename p e ps
  | .calculate _ e items => .calculate p e items
  | .combine _ op es => .combine p op es
  | .window _ f e extent => .window p f e extent
  | .checkDatapoint _ e r cs m => .checkDatapoint p e r cs m
  | .check _ c code level imbalance invalid => .check p c code level imbalance invalid
  | .checkHierarchy _ e r c v i o => .checkHierarchy p e r c v i o

end Expr
end Tabular
