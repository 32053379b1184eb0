import Tabular.Compile.Define
import Tabular.Compile.Expr

set_option autoImplicit false

/-!
# Sessions

A session runs statements one after the other against a context. A statement is compiled, evaluated
and bound; one that fails changes nothing.
-/
namespace Tabular

inductive SessionError where
  | compile (error : CompileError)
  | evaluation (error : EvalError)
  deriving DecidableEq

structure Session where
  config : Config
  engine : Engine
  context : Context

namespace Session

def start (config : Config) (context : Context) : Except EvalError Session := do
  let engine ← config.selectEngine
  return ⟨config, engine, context⟩

def compileExpr (s : Session) (e : Expr) : Except SessionError Compiled :=
  match Compile.compile ⟨s.context, s.config⟩ e with
  | .ok c => .ok c
  | .error e => .error (.compile e)

/-- The binding of a compiled expression. A scalar without a type takes the type of its value. -/
def bindingOf (context : Context) (today : Date) : Compiled → Except EvalError Binding
  | .dataset p => do
    let d ← p.eval context today
    return .dataset d
  | .scalar e => do
    let v ← e.eval (context.scope today)
    return .scalar (e.type?.or v.type?) v

def defined {α : Type} (f : α → Binding) : Compile.Result α → Except SessionError Binding
  | .ok a => .ok (f a)
  | .error e => .error (.compile e)

def outcome (s : Session) (today : Date) : Statement → Except SessionError Binding
  | .assign _ _ e => do
    let c ← s.compileExpr e
    match bindingOf s.context today c with
    | .ok b => .ok b
    | .error e => .error (.evaluation e)
  | .defineDatapoint p name domain vars rules =>
    defined .datapointRuleset (Compile.defineDatapoint p name domain vars rules)
  | .defineHierarchy _ name domain codes rules =>
    defined .hierarchicalRuleset (Compile.defineHierarchy name domain codes rules)

def bind (s : Session) (name : String) (b : Binding) : Session :=
  { s with context := s.context.set name b }

def execute (s : Session) (today : Date) (st : Statement) : Session × Except SessionError Binding :=
  match s.outcome today st with
  | .ok b => (s.bind st.target b, .ok b)
  | .error e => (s, .error e)

def run (s : Session) (today : Date) : List Statement → Session × Except SessionError Unit
  | [] => (s, .ok ())
  | st :: rest =>
    match s.outcome today st with
    | .ok b => (s.bind st.target b).run today rest
    | .error e => (s, .error e)

end Session
end Tabular
