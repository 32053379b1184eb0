import Tabular.Compile.Error
import Tabular.Script.Statement

set_option autoImplicit false

namespace Tabular.Compile

def numberedId (ruleset : String) (n : Nat) : String := s!"{ruleset}_{n}"

/-- The id of the `n`-th rule, given the ids before it. -/
def ruleId (ruleset : String) (seen : List String) (n : Nat) (name : Option String) :
    Except CompileFault String :=
  let id := name.getD (numberedId ruleset n)
  if seen.contains id then .error (.invalidArgument ruleset (.ruleTwice id)) else .ok id

def checkLevel (ruleset : String) : Option Int64 → Except CompileFault Unit
  | some level =>
    if level < 0 then .error (.invalidArgument ruleset (.levelNegative level.toInt)) else .ok ()
  | none => .ok ()

/-- Rules from the `n`-th on, after rules with the ids `seen`. -/
def datapointRules (ruleset : String) :
    Nat → List String → List DatapointRuleText → Result (List DatapointRule)
  | _, _, [] => .ok []
  | n, seen, r :: rest => do
    let id ← located r.pos (ruleId ruleset seen n r.name)
    located r.pos (checkLevel ruleset r.level)
    let rules ← datapointRules ruleset (n + 1) (id :: seen) rest
    return ⟨id, r.antecedent, r.consequent, r.code, r.level⟩ :: rules

def defineDatapoint (p : Position) (name : String) (domain : RulesetDomain)
    (vars : List RuleVariable) (rules : List DatapointRuleText) :
    Result DatapointRuleset :=
  match Schema.firstRepeated [] (vars.map RuleVariable.visible) with
  | some twice => fail p (.nameCollision twice)
  | none => do
    let rules ← datapointRules name 1 [] rules
    return ⟨name, domain, vars, rules⟩

def checkHierarchyRule (ruleset : String) (r : HierarchyRuleText) : Except CompileFault Unit :=
  if r.op.isComparison then
    if r.rhs.isEmpty then .error (.invalidArgument ruleset .noRightHandCodes) else .ok ()
  else .error (.invalidArgument ruleset (.notComparison r.op.symbol))

def hierarchyRules (ruleset : String) :
    Nat → List String → List HierarchyRuleText → Result (List HierarchyRule)
  | _, _, [] => .ok []
  | n, seen, r :: rest => do
    located r.pos (checkHierarchyRule ruleset r)
    let id ← located r.pos (ruleId ruleset seen n r.name)
    located r.pos (checkLevel ruleset r.level)
    let rules ← hierarchyRules ruleset (n + 1) (id :: seen) rest
    return ⟨id, r.lhs, r.op, r.rhs, r.code, r.level⟩ :: rules

def defineHierarchy (name : String) (domain : RulesetDomain) (codes : Option String)
    (rules : List HierarchyRuleText) : Result HierarchicalRuleset := do
  let rules ← hierarchyRules name 1 [] rules
  return ⟨name, domain, codes, rules⟩

end Tabular.Compile
