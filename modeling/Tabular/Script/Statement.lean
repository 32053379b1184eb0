import Tabular.Script.Ruleset

set_option autoImplicit false

namespace Tabular

/-- A rule as it is written; without a name it is numbered. -/
structure DatapointRuleText where
  name : Option String := none
  antecedent : Option Expr := none
  consequent : Expr
  code : Option String := none
  level : Option Int64 := none
  pos : Position := {}

structure HierarchyRuleText where
  name : Option String := none
  lhs : String
  op : BinaryOp
  rhs : List HierarchyItem
  code : Option String := none
  level : Option Int64 := none
  pos : Position := {}
  deriving DecidableEq, Repr

inductive Statement where
  | assign (pos : Position) (target : String) (expr : Expr)
  | defineDatapoint (pos : Position) (name : String) (domain : RulesetDomain)
      (vars : List RuleVariable) (rules : List DatapointRuleText)
  | defineHierarchy (pos : Position) (name : String) (domain : RulesetDomain)
      (codes : Option String) (rules : List HierarchyRuleText)

namespace Statement

def target : Statement → String
  | .assign _ n _ => n
  | .defineDatapoint _ n _ _ _ => n
  | .defineHierarchy _ n _ _ _ => n

def position : Statement → Position
  | .assign p _ _ => p
  | .defineDatapoint p _ _ _ _ => p
  | .defineHierarchy p _ _ _ _ => p

end Statement
end Tabular
