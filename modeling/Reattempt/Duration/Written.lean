import Reattempt.Duration
import Reattempt.Decimal.Reading
/-!
# Durations in words and clock times

Three written forms are read: counts with units after a `P`, whole days in words with an optional
clock time, and a clock time of hours, minutes and seconds. A sign may stand in front. The text is
taken as bytes, each given as the character of its value. Every count, product and sum has 32 bits.
-/
set_option autoImplicit false

namespace Reattempt.Duration

inductive WrittenError where
  | tooShort
  | countTooLarge
  | repeatedTimeMark
  | digit
  | fraction
  | dateUnit
  | timeUnit
  | dayWord
  | hoursTooLarge
  | hourDigit
  | minuteDigit
  | minuteTooLarge
  | secondDigit
  | secondTooLarge
  | missingFraction
  | extra
  | daysTooLarge
deriving DecidableEq

def WrittenError.message : WrittenError → String
  | .tooShort => "input is too short"
  | .countTooLarge => "a numeric value in the duration is too large"
  | .repeatedTimeMark => "`t` character repeated in duration"
  | .digit => "invalid digit in duration"
  | .fraction => "quantity fraction invalid in duration"
  | .dateUnit => "quantity invalid in date part of duration"
  | .timeUnit => "quantity invalid in time part of duration"
  | .dayWord => "\"day\" identifier in duration not correctly formatted"
  | .hoursTooLarge => "durations may not exceed 999,999,999 hours"
  | .hourDigit => "invalid character in hour"
  | .minuteDigit => "invalid character in minute"
  | .minuteTooLarge => "minute value is outside expected range of 0-59"
  | .secondDigit => "invalid character in second"
  | .secondTooLarge => "second value is outside expected range of 0-59"
  | .missingFraction => "second fraction digits missing after `.`"
  | .extra => "unexpected extra characters at the end of the input"
  | .daysTooLarge => "durations may not exceed 999,999,999 days"

/-- Days, seconds and microseconds, not yet carried into each other. -/
structure Amounts where
  days : Nat
  seconds : Nat
  micros : Nat

def counted (count : Nat) : Except WrittenError Nat :=
  if count < Nat.pow 2 32 then .ok count else .error .countTooLarge

def Amounts.normal (amounts : Amounts) : Except WrittenError Amounts := do
  let seconds ← counted (amounts.seconds + amounts.micros / 1000000)
  let days ← counted (amounts.days + seconds / 86400)
  if 999999999 < days then .error .daysTooLarge
  else .ok ⟨days, seconds % 86400, amounts.micros % 1000000⟩

def Amounts.microseconds (amounts : Amounts) : Nat :=
  (amounts.days * 86400 + amounts.seconds) * 1000000 + amounts.micros

/-- The whole number nearest to a non-negative one, a half going up. -/
def roundHalfUp (x : Binary64) : Nat :=
  (2 * x.quanta.natAbs + Binary64.unit) / (2 * Binary64.unit)

def number (text : List Char) : Except WrittenError (Nat × List Char) := do
  let (digits, rest) := Decimal.spanDigits text
  if digits.isEmpty then .error .digit
  else
    let count ← counted (Decimal.naturalOf digits)
    .ok (count, rest)

/-- The digits after a point as a part of one, gathered digit by digit. -/
def fractionOf (digits : List Char) : Binary64 :=
  let ten := Binary64.ofInt 10
  let (top, bottom) := digits.foldl
    (fun (top, bottom) c => (top * ten + Binary64.ofInt (Decimal.digitValue c), bottom * ten))
    (Binary64.zero, Binary64.ofInt 1)
  top / bottom

/-- A number with an optional point or comma and digits behind it. -/
def numberWithFraction (text : List Char) :
    Except WrittenError (Nat × Option Binary64 × List Char) := do
  let (count, rest) ← number text
  match rest with
  | mark :: behind =>
      if mark = '.' ∨ mark = ',' then
        let (digits, rest) := Decimal.spanDigits behind
        .ok (count, some (fractionOf digits), rest)
      else .ok (count, none, rest)
  | [] => .ok (count, none, rest)

def wholeOf (x : Binary64) : Nat := x.truncate.natAbs

def microsOf (seconds : Binary64) : Nat :=
  roundHalfUp ((seconds - Binary64.ofInt (wholeOf seconds)) * Binary64.ofInt 1000000)

def dateUnit? : Char → Option Nat
  | 'Y' => some 365
  | 'M' => some 30
  | 'W' => some 7
  | 'D' => some 1
  | _ => none

def timeUnit? : Char → Option Nat
  | 'H' => some 3600
  | 'M' => some 60
  | 'S' => some 1
  | _ => none

/-- Adds `count` units of so many days each, and a part of one unit. -/
def Amounts.addDays (amounts : Amounts) (count unitDays : Nat) (part : Option Binary64) :
    Except WrittenError Amounts := do
  let product ← counted (count * unitDays)
  let days ← counted (amounts.days + product)
  match part with
  | none => .ok { amounts with days := days }
  | some part =>
      let extra := part * Binary64.ofInt unitDays
      let days ← counted (days + wholeOf extra)
      let extraSeconds := (extra - Binary64.ofInt (wholeOf extra)) * Binary64.ofInt 86400
      let seconds ← counted (amounts.seconds + wholeOf extraSeconds)
      let micros ← counted (amounts.micros + microsOf extraSeconds)
      .ok ⟨days, seconds, micros⟩

def Amounts.addSeconds (amounts : Amounts) (count unitSeconds : Nat) (part : Option Binary64) :
    Except WrittenError Amounts := do
  let product ← counted (count * unitSeconds)
  let seconds ← counted (amounts.seconds + product)
  match part with
  | none => .ok { amounts with seconds := seconds }
  | some part =>
      let extra := part * Binary64.ofInt unitSeconds
      let seconds ← counted (seconds + wholeOf extra)
      let micros ← counted (amounts.micros + microsOf extra)
      .ok { amounts with seconds := seconds, micros := micros }

/-- The items after the `P`. The time mark comes once, and only the last item has a fraction. Each
item takes at least one character, so as many steps as characters are enough. -/
def unitItems : Nat → Bool → Bool → Amounts → List Char → Except WrittenError Amounts
  | _, _, _, amounts, [] => .ok amounts
  | 0, _, _, amounts, _ => .ok amounts
  | steps + 1, inTime, hadFraction, amounts, c :: rest =>
      if c = 'T' then
        if inTime then .error .repeatedTimeMark
        else unitItems steps true hadFraction amounts rest
      else do
        let (count, part, after) ← numberWithFraction (c :: rest)
        if hadFraction then .error .fraction
        else
          let mark := after.headD ' '
          if inTime then
            match timeUnit? mark with
            | none => .error .timeUnit
            | some unit =>
                let amounts ← amounts.addSeconds count unit part
                unitItems steps inTime part.isSome amounts (after.drop 1)
          else
            match dateUnit? mark with
            | none => .error .dateUnit
            | some unit =>
                let amounts ← amounts.addDays count unit part
                unitItems steps inTime part.isSome amounts (after.drop 1)

def pair? : List Char → Option (Nat × List Char)
  | c :: d :: rest =>
      if c.isDigit && d.isDigit then
        some (10 * Decimal.digitValue c + Decimal.digitValue d, rest)
      else none
  | _ => none

/-- Up to six digits as microseconds; what follows six of them is ignored. -/
def clockFraction (text : List Char) : Except WrittenError Nat :=
  let (digits, rest) := Decimal.spanDigits text
  if digits.isEmpty then .error .missingFraction
  else if 6 ≤ digits.length then .ok (Decimal.naturalOf (digits.take 6))
  else if rest.isEmpty then
    .ok (Decimal.naturalOf digits * Nat.pow 10 (6 - digits.length))
  else .error .extra

def clockSeconds (text : List Char) : Except WrittenError (Nat × Nat) :=
  match text with
  | [] => .ok (0, 0)
  | ':' :: rest =>
      match pair? rest with
      | none => .error .secondDigit
      | some (seconds, after) =>
          if 59 < seconds then .error .secondTooLarge
          else
            match after with
            | [] => .ok (seconds, 0)
            | mark :: behind =>
                if mark = '.' ∨ mark = ',' then
                  (clockFraction behind).map fun micros => (seconds, micros)
                else .error .extra
  | _ => .error .extra

def maxHours : Nat := 2400000000

/-- Hours, minutes and optional seconds; also gives the hours. -/
def clockTime (text : List Char) : Except WrittenError (Nat × Amounts) :=
  if text.length < 5 then .error .tooShort
  else if !text.contains ':' then .error .hourDigit
  else
    let (hourDigits, rest) := text.span (· ≠ ':')
    let minuteText := rest.drop 1
    if 10 < hourDigits.length then .error .hoursTooLarge
    else if !hourDigits.all Char.isDigit then .error .hourDigit
    else if maxHours < Decimal.naturalOf hourDigits then .error .hoursTooLarge
    else if minuteText.length < 2 then .error .tooShort
    else
      match pair? minuteText with
      | none => .error .minuteDigit
      | some (minutes, after) =>
          if 59 < minutes then .error .minuteTooLarge
          else
            let hours := Decimal.naturalOf hourDigits
            (clockSeconds after).map fun (seconds, micros) =>
              (hours, ⟨hours / 24, hours % 24 * 3600 + minutes * 60 + seconds, micros⟩)

def skipOne (c : Char) : List Char → List Char
  | head :: rest => if head = c then rest else head :: rest
  | [] => []

/-- The rest of the word for days after its first letter. -/
def dayWordEnd : List Char → Except WrittenError (List Char)
  | 'a' :: 'y' :: rest => .ok (skipOne 's' rest)
  | 'A' :: 'Y' :: rest => .ok (skipOne 'S' rest)
  | 'a' :: _ => .error .dayWord
  | 'A' :: _ => .error .dayWord
  | rest => .ok rest

/-- Whole days in words, then optionally a clock time of less than a day. -/
def daysAndTime (text : List Char) : Except WrittenError Amounts := do
  if text.isEmpty then .error .tooShort
  else
    let (days, rest) ← number text
    match skipOne ' ' rest with
    | [] => .error .dayWord
    | mark :: rest =>
        if mark ≠ 'd' ∧ mark ≠ 'D' then .error .dayWord
        else
          let rest ← dayWordEnd rest
          let rest := skipOne ' ' (skipOne ',' rest)
          if rest.isEmpty then .ok ⟨days, 0, 0⟩
          else
            let (hours, amounts) ← clockTime rest
            if 23 < hours then .error .hoursTooLarge
            else .ok { amounts with days := days }

def unsignedAmounts (text : List Char) : Except WrittenError Amounts :=
  match text with
  | 'P' :: rest => do
      let amounts ← unitItems rest.length false false ⟨0, 0, 0⟩ rest
      if rest.length < 2 then .error .tooShort else .ok amounts
  | _ =>
      if text.contains 'd' || text.contains 'D' || decide (text.length < 5) then daysAndTime text
      else (clockTime text).map Prod.snd

def writtenMicroseconds (text : List Char) : Except WrittenError Int := do
  if text.isEmpty then .error .tooShort
  else
    let (negative, body) := Decimal.spanSign text
    let amounts ← unsignedAmounts body
    let amounts ← amounts.normal
    .ok (if negative then -(amounts.microseconds : Int) else amounts.microseconds)

end Reattempt.Duration
