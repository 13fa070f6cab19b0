import Reattempt.Field.Number
/-!
# Reading durations from values

Numbers are seconds, text is a written duration, and a duration is taken as it is. The days in a
whole number of seconds are counted in a machine word and start over at its end. A negative value
within the magnitude that is written but below the least duration is out of range, which is no fault
of the field.
-/
set_option autoImplicit false

namespace Reattempt.Field

/-- Why a value gives no duration: a fault of the field, or a duration out of range. -/
inductive Rejection where
  | fault (fault : Fault)
  | range (error : Duration.RangeError)
deriving DecidableEq

def inRange (microseconds : Int) : Except Rejection Duration :=
  match Duration.ofMicroseconds microseconds with
  | .ok duration => .ok duration
  | .error error => .error (.range error)

def maxDays : Nat := 999999999

def tooManyDays : Fault := .durationText .daysTooLarge

/-- The days in a number of seconds, as a word of 32 bits holds them. -/
def daysOfInt (seconds : Int) : Nat := seconds.natAbs / 86400 % Nat.pow 2 32

def secondsOfInt (seconds : Int) : Nat := daysOfInt seconds * 86400 + seconds.natAbs % 86400

def durationOfInt (seconds : Int) : Except Rejection Duration :=
  if seconds < -(Int.pow 2 63) ∨ Int.pow 2 63 ≤ seconds ∨ maxDays < daysOfInt seconds then
    .error (.fault tooManyDays)
  else
    let counted : Int := secondsOfInt seconds
    inRange ((if seconds < 0 then -counted else counted) * Duration.perSecond)

/-- The whole days, the whole seconds beyond them and the fraction of a second, the last rounded to
microseconds half away from zero. -/
def microsecondsOfNumber (seconds : Binary64) : Nat :=
  let days := (seconds / Binary64.ofInt 86400).truncate.natAbs
  let micros := Duration.roundHalfUp (seconds.fraction * Binary64.ofInt Duration.perSecond)
  (days * 86400 + seconds.truncate.natAbs % 86400) * 1000000 + micros

def durationOfNumber (seconds : Binary64) : Except Rejection Duration :=
  if seconds.isNaN then .error (.fault .durationNaN)
  else if !seconds.isFinite then .error (.fault tooManyDays)
  else
    let magnitude := microsecondsOfNumber seconds.abs
    if 86399999999999999999 < magnitude then .error (.fault tooManyDays)
    else inRange (if seconds.isNegative then -(magnitude : Int) else magnitude)

def durationOfText (bytes : List UInt8) : Except Rejection Duration :=
  match Duration.writtenMicroseconds (bytes.map fun byte => Char.ofNat byte.toNat) with
  | .ok microseconds => inRange microseconds
  | .error error => .error (.fault (.durationText error))

def duration (value : Value) : Except Rejection Duration :=
  match value with
  | .duration duration => .ok duration
  | .bool value => durationOfInt (if value then 1 else 0)
  | .int value => durationOfInt value
  | .float value => durationOfNumber value
  | .text text => durationOfText text.toUTF8.toList
  | .brokenText _ => .error (.fault .textEncoding)
  | .bytes bytes => durationOfText bytes
  | _ => .error (.fault .durationKind)

end Reattempt.Field
