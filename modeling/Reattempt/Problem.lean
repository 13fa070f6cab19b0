import Reattempt.Duration.Written
/-!
# Problems with settings

Checking settings gives a list of problems, each with the place where it was found. A conflict is a
problem of several settings together and is looked for only when none of them has a problem alone.
-/
set_option autoImplicit false

namespace Reattempt

inductive Conflict where
  | negativeDelay
  | oneBoundOnly
  | boundsNotPositive
  | boundsNotIncreasing
  | fixedAndRandom
  | backoffAndRandom
  | backoffWithoutDelay
  | delayNotBelowMaxDelay
  | jitterTwice
  | jitterNotPositive
  | jitterAboveSmallestDelay
  | negativeMaxDuration
  | delayNotBelowMaxDuration
  | delayMaxNotBelowMaxDuration
  | retriesAndAttempts
  | severalDelayModes
deriving DecidableEq

def Conflict.message : Conflict → String
  | .negativeDelay => "delay must not be negative"
  | .oneBoundOnly => "delay_min and delay_max must be set together"
  | .boundsNotPositive => "delay_min and delay_max must be greater than 0"
  | .boundsNotIncreasing => "delay_min must be less than delay_max"
  | .fixedAndRandom => "a fixed delay and a random delay cannot both be set"
  | .backoffAndRandom => "backoff and a random delay cannot both be set"
  | .backoffWithoutDelay => "backoff requires a delay greater than 0"
  | .delayNotBelowMaxDelay => "delay must be less than max_delay"
  | .jitterTwice => "jitter and jitter_factor cannot both be set"
  | .jitterNotPositive => "jitter must be greater than 0"
  | .jitterAboveSmallestDelay => "jitter must not exceed the minimum configured delay"
  | .negativeMaxDuration => "max_duration must not be negative"
  | .delayNotBelowMaxDuration => "delay must be less than max_duration"
  | .delayMaxNotBelowMaxDuration => "delay_max must be less than max_duration"
  | .retriesAndAttempts => "max_retries and max_attempts cannot both be set"
  | .severalDelayModes => "only one of delay, delay_range and backoff can be set"

inductive Fault where
  | durationKind
  | durationText (error : Duration.WrittenError)
  | durationNaN
  | integerKind
  | integerText
  | integerPart
  | integerSize
  | notFinite
  | numberKind
  | numberText
  | notAbove (bound : Int)
  | notAtLeast (bound : Int)
  | notAtMost (bound : Int)
  | notCallable
  | tupleKind
  | listKind
  | textKind
  /-- Text that is broken, or bytes that are no text. -/
  | textEncoding
  | recordKind (name : String)
  | keyKind
  | missing
  | unknown
  | frozen
  | conflict (cause : Conflict)
deriving DecidableEq

namespace Fault

def code : Fault → String
  | .durationKind => "time_delta_type"
  | .durationText _ => "time_delta_parsing"
  | .durationNaN => "time_delta_parsing"
  | .integerKind => "int_type"
  | .integerText => "int_parsing"
  | .integerPart => "int_from_float"
  | .integerSize => "int_parsing_size"
  | .notFinite => "finite_number"
  | .numberKind => "float_type"
  | .numberText => "float_parsing"
  | .notAbove _ => "greater_than"
  | .notAtLeast _ => "greater_than_equal"
  | .notAtMost _ => "less_than_equal"
  | .notCallable => "callable_type"
  | .tupleKind => "tuple_type"
  | .listKind => "list_type"
  | .textKind => "string_type"
  | .textEncoding => "string_unicode"
  | .recordKind _ => "model_type"
  | .keyKind => "invalid_key"
  | .missing => "missing"
  | .unknown => "extra_forbidden"
  | .frozen => "frozen_instance"
  | .conflict _ => "value_error"

def message : Fault → String
  | .durationKind => "Input should be a valid timedelta"
  | .durationText error => "Input should be a valid timedelta, " ++ error.message
  | .durationNaN => "Input should be a valid timedelta, NaN values not permitted"
  | .integerKind => "Input should be a valid integer"
  | .integerText => "Input should be a valid integer, unable to parse string as an integer"
  | .integerPart => "Input should be a valid integer, got a number with a fractional part"
  | .integerSize => "Unable to parse input string as an integer, exceeded maximum size"
  | .notFinite => "Input should be a finite number"
  | .numberKind => "Input should be a valid number"
  | .numberText => "Input should be a valid number, unable to parse string as a number"
  | .notAbove bound => "Input should be greater than " ++ toString bound
  | .notAtLeast bound => "Input should be greater than or equal to " ++ toString bound
  | .notAtMost bound => "Input should be less than or equal to " ++ toString bound
  | .notCallable => "Input should be callable"
  | .tupleKind => "Input should be a valid tuple"
  | .listKind => "Input should be a valid list"
  | .textKind => "Input should be a valid string"
  | .textEncoding =>
      "Input should be a valid string, unable to parse raw data as a unicode string"
  | .recordKind name => "Input should be a valid dictionary or instance of " ++ name
  | .keyKind => "Keys should be strings"
  | .missing => "Field required"
  | .unknown => "Extra inputs are not permitted"
  | .frozen => "Instance is frozen"
  | .conflict cause => "Value error, " ++ cause.message

end Fault

/-- One step on the way to a value: a field or key, or a place in a list. -/
inductive Place where
  | field (name : String)
  | index (position : Int)
deriving DecidableEq

def Place.text : Place → String
  | .field name => name
  | .index position => toString position

structure Problem where
  location : List Place
  fault : Fault
deriving DecidableEq

namespace Problem

def within (place : Place) (problem : Problem) : Problem :=
  { problem with location := place :: problem.location }

/-- One line of a report. A problem of all settings together is one of the policy. -/
def line (problem : Problem) : String :=
  let path := ".".intercalate (problem.location.map Place.text)
  "  - " ++ (if path.isEmpty then "policy" else path) ++ ": " ++ problem.fault.message

def report (header : String) (problems : List Problem) : String :=
  header ++ ":\n" ++ "\n".intercalate (problems.map line)

end Problem
end Reattempt
