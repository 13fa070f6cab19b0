import Reattempt.Duration
import Reattempt.Decimal.Reading
import Reattempt.Text.Blank
import Reattempt.Text.Digit
/-!
# Durations with a unit suffix

The short form of a policy file: an amount with an optional unit, such as `250ms`, `1.5 m` or a bare
`5` for seconds, with blanks around both. Digits of every script count.
-/
set_option autoImplicit false

namespace Reattempt.Duration

/-- The units of the short form; a bare amount is in seconds. -/
inductive Suffix where
  | bare
  | milliseconds
  | seconds
  | minutes
  | hours
deriving DecidableEq

def Suffix.text : Suffix → String
  | .bare => ""
  | .milliseconds => "ms"
  | .seconds => "s"
  | .minutes => "m"
  | .hours => "h"

def Suffix.factor : Suffix → Binary64
  | .bare => Binary64.ofInt 1
  | .milliseconds => Binary64.ofRatio 1 1000
  | .seconds => Binary64.ofInt 1
  | .minutes => Binary64.ofInt 60
  | .hours => Binary64.ofInt 3600

def Suffix.ofText? : List Char → Option Suffix
  | [] => some .bare
  | ['m', 's'] => some .milliseconds
  | ['s'] => some .seconds
  | ['m'] => some .minutes
  | ['h'] => some .hours
  | _ => none

/-- An amount of the short form: digits before the point and, if there is one, digits behind it. -/
structure Amount where
  whole : List Char
  places : Option (List Char)
deriving DecidableEq

def Amount.value (amount : Amount) : Binary64 :=
  let places := amount.places.getD []
  Decimal.binary64Of false
    (Decimal.naturalOf ((amount.whole ++ places).map Text.plainDigit)) (-(places.length : Int))

/-- The amount at the start of a text. A point is taken only with a digit behind it. -/
def Amount.span? (text : List Char) : Option (Amount × List Char) :=
  let (whole, rest) := text.span Text.isDigit
  if whole.isEmpty then none
  else
    match rest with
    | '.' :: behind =>
        let (places, after) := behind.span Text.isDigit
        if places.isEmpty then some (⟨whole, none⟩, rest) else some (⟨whole, some places⟩, after)
    | _ => some (⟨whole, none⟩, rest)

def suffixed? (text : List Char) : Option (Amount × Suffix) :=
  match Amount.span? (text.dropWhile Text.isBlank) with
  | none => none
  | some (amount, rest) =>
      (Suffix.ofText? (Text.trimBy Text.isBlank rest)).map fun suffix => (amount, suffix)

/-- The duration of an amount of a unit, by a binary64 product. -/
def ofSuffixed (amount : Amount) (suffix : Suffix) : Except RangeError Duration :=
  ofSeconds (amount.value * suffix.factor)

end Reattempt.Duration
