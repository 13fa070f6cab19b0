import Reattempt.Binary64
import Reattempt.Decimal.Limit
/-!
# Durations

A duration is a whole number of microseconds within 999999999 days in either direction. Seconds as
binary64 numbers are converted both ways; only the way into a duration can fail.
-/
set_option autoImplicit false

namespace Reattempt

/-- The least duration is -999999999 days, the greatest lacks a microsecond of 1000000000 days. -/
structure Duration where
  microseconds : Int
  inRange : -86399999913600000000 ≤ microseconds ∧ microseconds ≤ 86399999999999999999 := by decide
deriving DecidableEq

namespace Duration

/-- Why a number is out of the range of what it is to become: a duration, or a text. -/
inductive RangeError where
  /-- The whole days, rounded down, are out of range. -/
  | days (count : Int)
  /-- The whole days do not fit a machine word. -/
  | word
  | infinite
  | notANumber
  /-- A whole number is too long to be written. -/
  | digits
deriving DecidableEq

def RangeError.message : RangeError → String
  | .days count => "days=" ++ toString count ++ "; must have magnitude <= 999999999"
  | .word => "Python int too large to convert to C int"
  | .infinite => "cannot convert float infinity to integer"
  | .notANumber => "cannot convert float NaN to integer"
  | .digits =>
      "Exceeds the limit (" ++ toString Decimal.maxDigits ++
        " digits) for integer string conversion; use sys.set_int_max_str_digits() to increase " ++
        "the limit"

instance : LT Duration := ⟨fun a b => a.microseconds < b.microseconds⟩
instance : LE Duration := ⟨fun a b => a.microseconds ≤ b.microseconds⟩
instance (a b : Duration) : Decidable (a < b) :=
  inferInstanceAs (Decidable (a.microseconds < b.microseconds))
instance (a b : Duration) : Decidable (a ≤ b) :=
  inferInstanceAs (Decidable (a.microseconds ≤ b.microseconds))

def zero : Duration := ⟨0, by decide⟩

instance : Inhabited Duration := ⟨zero⟩

def perSecond : Nat := 1000000

def perDay : Nat := 86400000000

def ofMicroseconds (count : Int) : Except RangeError Duration :=
  if inRange : -86399999913600000000 ≤ count ∧ count ≤ 86399999999999999999 then
    .ok ⟨count, inRange⟩
  else
    let days := count.fdiv perDay
    if -(Int.pow 2 31) ≤ days ∧ days < Int.pow 2 31 then .error (.days days) else .error .word

def add (a b : Duration) : Except RangeError Duration :=
  ofMicroseconds (a.microseconds + b.microseconds)

def toSeconds (duration : Duration) : Binary64 :=
  Binary64.ofRatio duration.microseconds perSecond

/-- The signed whole number nearest to a signed quotient, a half going to the even neighbour. -/
def nearestEvenInt (numerator : Int) (denominator : Nat) : Int :=
  if numerator < 0 then -(nearestEven numerator.natAbs denominator : Int)
  else nearestEven numerator.natAbs denominator

/-- Microseconds in a finite number of seconds. The whole seconds are exact, the rest is multiplied
by a million as a binary64 number, and the total is rounded to the nearest microsecond. -/
def microsecondsOf (seconds : Binary64) : Int :=
  let rest := seconds.fraction * Binary64.ofInt perSecond
  nearestEvenInt (seconds.truncate * perSecond * Binary64.unit + rest.quanta) Binary64.unit

def ofSeconds : Binary64 → Except RangeError Duration
  | .nan _ => .error .notANumber
  | .infinite _ => .error .infinite
  | seconds => ofMicroseconds (microsecondsOf seconds)

end Duration
end Reattempt
