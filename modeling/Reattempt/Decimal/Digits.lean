import Reattempt.Binary64
/-!
# Choosing decimal digits

A positive rational is `numerator / denominator`. Its leading exponent is the power of ten of its
first digit; `significant` rounds it to a number of digits and `shortest` finds the fewest digits
from which a binary64 number can be read back.
-/
set_option autoImplicit false

namespace Reattempt.Decimal

/-- `digits * 10 ^ exponent`. -/
structure Scaled where
  digits : Nat
  exponent : Int
deriving DecidableEq

/-- Whether `10 ^ exponent ≤ numerator / denominator`. -/
def reaches (numerator denominator : Nat) (exponent : Int) : Bool :=
  decide (Nat.pow 10 exponent.toNat * denominator ≤ numerator * Nat.pow 10 (-exponent).toNat)

def climb (numerator denominator : Nat) : Nat → Int → Int
  | 0, exponent => exponent
  | steps + 1, exponent =>
      if reaches numerator denominator (exponent + 1) then
        climb numerator denominator steps (exponent + 1)
      else exponent

/-- The greatest `p` with `10 ^ p ≤ numerator / denominator`, started below it by an estimate from
the binary logarithms. -/
def leadingExponent (numerator denominator : Nat) : Int :=
  let binary : Int := (numerator.log2 : Int) - denominator.log2 - 1
  climb numerator denominator 4 (Int.fdiv (binary * 30103) 100000 - 1)

/-- The nearest whole number of units `10 ^ exponent`, a half going to the even neighbour. -/
def unitsOf (numerator denominator : Nat) (exponent : Int) : Nat :=
  nearestEven (numerator * Nat.pow 10 (-exponent).toNat) (denominator * Nat.pow 10 exponent.toNat)

/-- Rounded to `count` digits; a carry past the leading digit moves to the next power of ten. -/
def significant (numerator denominator count : Nat) : Scaled :=
  let exponent := leadingExponent numerator denominator - (count - 1 : Nat)
  let units := unitsOf numerator denominator exponent
  if units = Nat.pow 10 count then ⟨Nat.pow 10 (count - 1), exponent + 1⟩ else ⟨units, exponent⟩

/-- Quarters of a quantum: twice the distance to each of the ends of the numbers that round to a
value, and whether the ends themselves do. -/
structure Interval where
  low : Nat
  high : Nat
  closed : Bool

/-- All that rounds to the number `mantissa * 2 ^ shift`. Below a power of two the gap is half. -/
def Interval.of (mantissa shift : Nat) : Interval :=
  let step := Nat.pow 2 shift
  let below := if mantissa = Nat.pow 2 52 ∧ shift ≠ 0 then step else 2 * step
  { low := 4 * mantissa * step - below
    high := 4 * mantissa * step + 2 * step
    closed := mantissa % 2 == 0 }

def Interval.holds (interval : Interval) (candidate : Scaled) : Bool :=
  let scaled := candidate.digits * Nat.pow 10 candidate.exponent.toNat * (4 * Binary64.unit)
  let low := interval.low * Nat.pow 10 (-candidate.exponent).toNat
  let high := interval.high * Nat.pow 10 (-candidate.exponent).toNat
  if interval.closed then decide (low ≤ scaled) && decide (scaled ≤ high)
  else decide (low < scaled) && decide (scaled < high)

def neighbours (numerator denominator : Nat) (exponent : Int) : List Scaled :=
  let top := numerator * Nat.pow 10 (-exponent).toNat
  let bottom := denominator * Nat.pow 10 exponent.toNat
  let floor := top / bottom
  if nearestEven top bottom = floor then [⟨floor, exponent⟩, ⟨floor + 1, exponent⟩]
  else [⟨floor + 1, exponent⟩, ⟨floor, exponent⟩]

def dropZeros : Nat → Scaled → Scaled
  | 0, value => value
  | steps + 1, value =>
      if value.digits % 10 = 0 then dropZeros steps ⟨value.digits / 10, value.exponent + 1⟩
      else value

/-- The fewest digits that read back as the positive number `mantissa * 2 ^ shift`, the nearest
such ones. Seventeen always suffice; the exact value stands behind them. -/
def shortest (mantissa shift : Nat) : Scaled :=
  let interval := Interval.of mantissa shift
  let value := mantissa * Nat.pow 2 shift
  let leading := leadingExponent value Binary64.unit
  let grids := (List.range 17).map fun (count : Nat) => leading - (count : Int)
  let found := grids.findSome? fun exponent =>
    (neighbours value Binary64.unit exponent).find? interval.holds
  match found with
  | some candidate => dropZeros 20 candidate
  | none => ⟨value * Nat.pow 5 1074, -1074⟩

end Reattempt.Decimal
