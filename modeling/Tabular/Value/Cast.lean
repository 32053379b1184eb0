import Tabular.Failure

set_option autoImplicit false

namespace Tabular.Value

def convert? (v : Value) (t : ScalarType) : Option Value :=
  match v, t with
  | .integer i, .number => some (.number (Number.ofInteger i))
  | .integer i, .boolean => some (.boolean (i != 0))
  | .number x, .integer => ((Number.integer? x).bind Integer.check).map .integer
  | .number x, .boolean => some (.boolean !x.isZero)
  | .boolean b, .integer => some (.integer (if b then 1 else 0))
  | .boolean b, .number => some (.number (if b then 1.0 else 0.0))
  | .string s, t => parse? t s
  | v, .string => some (.string v.render)
  | _, _ => none

def cast (v : Value) (t : ScalarType) : Except EvalError Value :=
  if v.isNull || v.type? == some t then .ok v
  else
    match v.convert? t with
    | some w => .ok w
    | none => .error (.cast v.render t)

end Tabular.Value
