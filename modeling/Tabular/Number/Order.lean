import Tabular.Number.Basic

set_option autoImplicit false

namespace Tabular.Number

/-- Strictly increasing in the total order: the sign bit of positive numbers is set, and all bits
    of negative ones are turned. -/
def orderKey (x : Number) : UInt64 := if x.isNegative then ~~~x.bits else x.bits ^^^ signBit

def order (x y : Number) : Ordering := compare (orderKey x) (orderKey y)

def same (x y : Number) : Bool := x.equals y || (x.isNaN && y.isNaN)

end Tabular.Number
