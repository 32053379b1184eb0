import Tabular.Rules.Hierarchy
import Tabular.Script.Expr

set_option autoImplicit false

namespace Tabular

inductive RulesetDomain where
  /-- Components. -/
  | components
  /-- The components that declare a value domain. -/
  | valueDomains
  deriving DecidableEq, Repr

def RulesetDomain.name : RulesetDomain → String
  | .components => "variable"
  | .valueDomains => "value_domain"

def RulesetDomain.all : List RulesetDomain := [.components, .valueDomains]

structure RuleVariable where
  source : String
  shownAs : Option String
  deriving DecidableEq, Repr

def RuleVariable.visible (v : RuleVariable) : String := v.shownAs.getD v.source

structure DatapointRule where
  id : String
  antecedent : Option Expr
  consequent : Expr
  code : Option String
  level : Option Int64

structure DatapointRuleset where
  name : String
  domain : RulesetDomain
  vars : List RuleVariable
  rules : List DatapointRule

structure HierarchicalRuleset where
  name : String
  domain : RulesetDomain
  /-- The component or the value domain of the codes. -/
  codes : Option String
  rules : List HierarchyRule
  deriving DecidableEq, Repr

end Tabular
