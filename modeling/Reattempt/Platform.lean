import Reattempt.Delay
/-!
# What the platform provides

Powers of binary64 numbers are not fixed by their exact value; they are taken from the platform.
-/
set_option autoImplicit false

namespace Reattempt.Platform

def toFloat (number : Binary64) : Float := Float.ofBits (UInt64.ofNat number.toBits)

def ofFloat (number : Float) : Binary64 := Binary64.ofBits number.toBits.toNat

def power : Power := fun base exponent => ofFloat (Float.pow (toFloat base) (toFloat exponent))

end Reattempt.Platform
