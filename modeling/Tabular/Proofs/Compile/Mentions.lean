import Tabular.Context
import Tabular.Script.Statement

set_option autoImplicit false

namespace Tabular

inductive Mention where
  | identifier (name : String)
  | ruleset (name : String)
  deriving DecidableEq, Repr

def Mention.name : Mention → String
  | .identifier n => n
  | .ruleset n => n

mutual

def Expr.mentions : Expr → List Mention
  | .literal _ _ => []
  | .name _ n => [.identifier n]
  | .unary _ _ e => e.mentions
  | .binary _ _ l r => l.mentions ++ r.mentions
  | .conditional _ t y n => t.mentions ++ y.mentions ++ n.mentions
  | .cast _ e _ => e.mentions
  | .call _ _ args => mentionsAll args
  | .member _ e _ _ => e.mentions
  | .select _ e _ => e.mentions
  | .filter _ e c => e.mentions ++ c.mentions
  | .keep _ e _ => e.mentions
  | .drop _ e _ => e.mentions
  | .rename _ e _ => e.mentions
  | .calculate _ e items => e.mentions ++ mentionsItems items
  | .combine _ _ es => mentionsAll es
  | .window _ _ e _ => e.mentions
  | .checkDatapoint _ e n _ _ => .ruleset n :: e.mentions
  | .check _ e code level imbalance _ =>
    e.mentions ++ mentionsOption imbalance ++ mentionsOption code ++ mentionsOption level
  | .checkHierarchy _ e n _ _ _ _ => .ruleset n :: e.mentions

def mentionsAll : List Expr → List Mention
  | [] => []
  | e :: rest => e.mentions ++ mentionsAll rest

def mentionsOption : Option Expr → List Mention
  | none => []
  | some e => e.mentions

def mentionsItems : List CalcItem → List Mention
  | [] => []
  | .mk _ _ e :: rest => e.mentions ++ mentionsItems rest

end

theorem mem_mentionsAll {m : Mention} {es : List Expr} :
    m ∈ mentionsAll es ↔ ∃ e ∈ es, m ∈ e.mentions := by
  induction es with
  | nil => simp [mentionsAll]
  | cons e rest ih => simp [mentionsAll, ih]

def DatapointRule.expressions (r : DatapointRule) : List Expr := r.antecedent.toList ++ [r.consequent]

/-- What an expression mentions, itself or in the rules of a datapoint ruleset it applies. -/
inductive Reaches (c : Context) : Expr → Mention → Prop
  | here {e : Expr} {m : Mention} (h : m ∈ e.mentions) : Reaches c e m
  | rule {e i : Expr} {n : String} {rs : DatapointRuleset} {r : DatapointRule} {m : Mention}
      (hn : .ruleset n ∈ e.mentions) (hrs : c.get? n = some (.datapointRuleset rs))
      (hr : r ∈ rs.rules) (hi : i ∈ r.expressions) (h : Reaches c i m) : Reaches c e m

/-- What is reached lies in every list that has what the expression mentions and, with a ruleset,
    what its rules mention. -/
theorem Reaches.mem {c : Context} {ms : List Mention} {e : Expr} {m : Mention} (h : Reaches c e m)
    (hclosed : ∀ n rs, .ruleset n ∈ ms → c.get? n = some (.datapointRuleset rs) →
      ∀ r ∈ rs.rules, ∀ i ∈ r.expressions, i.mentions ⊆ ms) (he : e.mentions ⊆ ms) : m ∈ ms := by
  induction h with
  | here h => exact he h
  | rule hn hrs hr hi _ ih => exact ih (hclosed _ _ (he hn) hrs _ hr _ hi)

/-- Only an assignment looks names up; a definition keeps its rules as they are. -/
def Statement.Reaches (c : Context) : Statement → Mention → Prop
  | .assign _ _ e, m => Tabular.Reaches c e m
  | _, _ => False

end Tabular
