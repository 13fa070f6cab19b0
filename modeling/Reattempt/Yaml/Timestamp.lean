import Reattempt.Value.Display
import Reattempt.Decimal.Reading
/-!
# Dates and times

A date is a year, a month and a day with dashes between them; a time of day and an offset from
universal time may follow. Only dates of the calendar and times of the day are values.
-/
set_option autoImplicit false

namespace Reattempt.Yaml

/-- How far a time is from universal time. -/
inductive Offset where
  | unknown
  | universal
  | minutes (isWest : Bool) (count : Nat)
deriving DecidableEq

structure TimeOfDay where
  hour : Nat
  minute : Nat
  second : Nat
  microsecond : Nat
  offset : Offset
deriving DecidableEq

structure Timestamp where
  year : Nat
  month : Nat
  day : Nat
  time : Option TimeOfDay
deriving DecidableEq

namespace Timestamp

/-- A number of at least `least` and at most `most` digits at the start of a text. -/
def digits? (least most : Nat) (text : List Char) : Option (List Char × List Char) :=
  let digits := (text.takeWhile Char.isDigit).take most
  if least ≤ digits.length then some (digits, text.drop digits.length) else none

def after? (mark : Char) : List Char → Option (List Char)
  | c :: rest => if c = mark then some rest else none
  | [] => none

def isBlankChar (c : Char) : Bool := c == ' ' || c == '\t'

def offset? (text : List Char) : Option Offset :=
  match text.dropWhile isBlankChar with
  | [] => if text.isEmpty then some .unknown else none
  | ['Z'] => some .universal
  | sign :: rest =>
      if sign == '+' || sign == '-' then do
        let (hours, behind) ← digits? 1 2 rest
        let minutes ←
          match behind with
          | [] => some []
          | ':' :: left => do
              let (minutes, end_) ← digits? 2 2 left
              if end_.isEmpty then some minutes else none
          | _ => none
        some (.minutes (sign == '-')
          (Decimal.naturalOf hours * 60 + Decimal.naturalOf minutes))
      else none

def microseconds (digits : List Char) : Nat :=
  let kept := digits.take 6
  Decimal.naturalOf kept * Nat.pow 10 (6 - kept.length)

def timeOfDay? (text : List Char) : Option TimeOfDay := do
  let (hour, rest) ← digits? 1 2 text
  let (minute, rest) ← digits? 2 2 (← after? ':' rest)
  let (second, rest) ← digits? 2 2 (← after? ':' rest)
  let (fraction, rest) :=
    match rest with
    | '.' :: behind => (behind.takeWhile Char.isDigit, behind.dropWhile Char.isDigit)
    | _ => ([], rest)
  let offset ← offset? rest
  some ⟨Decimal.naturalOf hour, Decimal.naturalOf minute, Decimal.naturalOf second,
    microseconds fraction, offset⟩

/-- The time behind a date: none, or one set off by a `T` or by blanks. -/
def time? (text : List Char) : Option (Option TimeOfDay) :=
  match text with
  | [] => some none
  | c :: rest =>
      if c == 'T' || c == 't' then (timeOfDay? rest).map some
      else if isBlankChar c then (timeOfDay? (rest.dropWhile isBlankChar)).map some
      else none

/-- The parts of a date, the month and the day as they are written, and the time. -/
def parts? (text : List Char) : Option (Nat × List Char × List Char × Option TimeOfDay) := do
  let (year, rest) ← digits? 4 4 text
  let (month, rest) ← digits? 1 2 (← after? '-' rest)
  let (day, rest) ← digits? 1 2 (← after? '-' rest)
  let time ← time? rest
  some (Decimal.naturalOf year, month, day, time)

def dropNewline (text : List Char) : List Char :=
  if text.getLast? == some '\n' then text.dropLast else text

def ofText? (text : List Char) : Option Timestamp :=
  (parts? (dropNewline text)).map fun (year, month, day, time) =>
    ⟨year, Decimal.naturalOf month, Decimal.naturalOf day, time⟩

/-- Whether a text has the form of a date. Without a time, month and day have two digits. -/
def isForm (text : List Char) : Bool :=
  (parts? text).any fun (_, month, day, time) =>
    time.isSome || (month.length == 2 && day.length == 2)

def isLeapYear (year : Nat) : Bool := year % 4 == 0 && (year % 100 != 0 || year % 400 == 0)

def daysOfMonth (year month : Nat) : Nat :=
  if month = 2 then if isLeapYear year then 29 else 28
  else if [4, 6, 9, 11].contains month then 30
  else 31

def offsetFault? : Offset → Option String
  | .minutes isWest count =>
      if count < 1440 then none
      else
        let micros := (count : Int) * 60 * Duration.perSecond
        let shown :=
          match Duration.ofMicroseconds (if isWest then -micros else micros) with
          | .ok duration => duration.shown
          | .error _ => ""
        some ("offset must be a timedelta strictly between -timedelta(hours=24) and " ++
          "timedelta(hours=24), not " ++ shown ++ ".")
  | _ => none

def timeFault? (time : TimeOfDay) : Option String :=
  if 23 < time.hour then some "hour must be in 0..23"
  else if 59 < time.minute then some "minute must be in 0..59"
  else if 59 < time.second then some "second must be in 0..59"
  else none

def dateFault? (date : Timestamp) : Option String :=
  if date.year = 0 then some "year 0 is out of range"
  else if date.month = 0 ∨ 12 < date.month then some "month must be in 1..12"
  else if date.day = 0 ∨ daysOfMonth date.year date.month < date.day then
    some "day is out of range for month"
  else none

def fault? (date : Timestamp) : Option String :=
  (date.time.bind fun time => offsetFault? time.offset) <|> date.dateFault? <|>
    date.time.bind timeFault?

/-- How many days there are before the first of March of a year, from some day on. -/
def daysBeforeYear (year : Nat) : Nat := 365 * year + year / 4 - year / 100 + year / 400

/-- The number of a day, counted from some day on. A year starts with March here, so that a leap
day is the last one of its year. -/
def dayNumber (year month day : Nat) : Nat :=
  let (year, month) := if month < 3 then (year - 1, month + 9) else (year, month - 3)
  daysBeforeYear year + (153 * month + 2) / 5 + day

def TimeOfDay.microsecondsOfDay (time : TimeOfDay) : Nat :=
  ((time.hour * 60 + time.minute) * 60 + time.second) * 1000000 + time.microsecond

def moment (date : Timestamp) : Moment :=
  let day := dayNumber date.year date.month date.day
  match date.time with
  | none => .day day
  | some time =>
      let micros : Int := day * Duration.perDay + TimeOfDay.microsecondsOfDay time
      match time.offset with
      | .unknown => .clock micros
      | .universal => .universal micros
      | .minutes isWest count =>
          let offset := (count : Int) * 60 * Duration.perSecond
          .universal (if isWest then micros + offset else micros - offset)

def Offset.shown : Offset → List String
  | .unknown => []
  | .universal => ["tzinfo=datetime.timezone.utc"]
  | .minutes isWest count =>
      if count = 0 then ["tzinfo=datetime.timezone.utc"]
      else
        let micros := (count : Int) * 60 * Duration.perSecond
        match Duration.ofMicroseconds (if isWest then -micros else micros) with
        | .ok duration => ["tzinfo=datetime.timezone(" ++ duration.shown ++ ")"]
        | .error _ => []

def TimeOfDay.shown (time : TimeOfDay) : List String :=
  let small :=
    if time.microsecond ≠ 0 then [time.second, time.microsecond]
    else if time.second ≠ 0 then [time.second]
    else []
  ([time.hour, time.minute] ++ small).map toString ++ Offset.shown time.offset

def shown (date : Timestamp) : String :=
  let days := [date.year, date.month, date.day].map toString
  match date.time with
  | none => "datetime.date(" ++ ", ".intercalate days ++ ")"
  | some time => "datetime.datetime(" ++ ", ".intercalate (days ++ TimeOfDay.shown time) ++ ")"

end Timestamp
end Reattempt.Yaml
