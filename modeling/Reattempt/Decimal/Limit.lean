/-!
# How long a number may be

Whole numbers in base ten are read and written up to a fixed number of digits.
-/
set_option autoImplicit false

namespace Reattempt.Decimal

def maxDigits : Nat := 4300

/-- Whether a whole number is short enough to be written. -/
@[irreducible] def isWritable (number : Int) : Bool := decide (number.natAbs < Nat.pow 10 maxDigits)

end Reattempt.Decimal
