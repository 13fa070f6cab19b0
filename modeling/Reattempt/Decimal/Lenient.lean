import Reattempt.Decimal.Limit
import Reattempt.Decimal.Reading
import Reattempt.Text.Blank
/-!
# Numbers in lenient notation

The strict notation of a whole number has a minus sign or none, and digits of which the first is
zero only if it is the last. The lenient one also allows blanks around the number, a plus sign,
leading zeros, underscores, and a point with zeros behind it. It is read by cutting it down to the
strict one. A number with a fraction may have single underscores inside.
-/
set_option autoImplicit false

namespace Reattempt.Decimal

inductive WholeError where
  | malformed
  | tooManyDigits
deriving DecidableEq

def spanStrictDigits : List Char → List Char × List Char
  | '0' :: rest => (['0'], rest)
  | text => spanDigits text

/-- A whole number in strict notation. Too many digits are noticed before anything behind them. -/
def strictWhole (text : List Char) : Except WholeError Int :=
  let (negative, body) :=
    match text with
    | '-' :: rest => (true, rest)
    | _ => (false, text)
  let (digits, rest) := spanStrictDigits body
  if maxDigits < digits.length + negative.toNat then .error .tooManyDigits
  else if digits.isEmpty || !rest.isEmpty then .error .malformed
  else
    let total := naturalOf digits
    .ok (if negative then -(total : Int) else total)

/-- Whether a text goes on from here without leading zeros. -/
def startsNumber (c : Char) : Bool := c == '-' || decide ('1' ≤ c ∧ c ≤ '9')

/-- Without the zeros and underscores from here on. One character stays in front of a point and at
the end. -/
def dropZerosFrom (before : Char) : List Char → Option (List Char)
  | [] => some [before]
  | c :: rest =>
      if startsNumber c then some (c :: rest)
      else if c == '.' then some (before :: c :: rest)
      else if c == '0' || c == '_' then dropZerosFrom c rest
      else none

def dropLeadingZeros : List Char → Option (List Char)
  | '0' :: rest => dropZerosFrom '0' rest
  | c :: rest => if startsNumber c then some (c :: rest) else none
  | [] => none

/-- Without a point and the zeros behind it; nothing if anything else stands there. -/
def dropZeroPlaces (text : List Char) : Option (List Char) :=
  let (whole, places) := text.span (· ≠ '.')
  match places with
  | [] => some whole
  | _ :: zeros => if !zeros.isEmpty && zeros.all (· == '0') then some whole else none

def hasDoubleScore : List Char → Bool
  | '_' :: '_' :: _ => true
  | _ :: rest => hasDoubleScore rest
  | [] => false

/-- Without underscores, if each of them stands alone and inside the text. -/
def dropScores? (text : List Char) : Option (List Char) :=
  if text.head? == some '_' || text.getLast? == some '_' || hasDoubleScore text then none
  else some (text.filter (· != '_'))

/-- A lenient whole number cut down to strict notation. -/
def cutDown? (text : List Char) : Option (List Char) := do
  let (negative, body) := spanSign (Text.trimBy Text.isSpace text)
  if !negative && body.head? == some '-' then none
  else
    let digits ← dropScores? (← dropZeroPlaces (← dropLeadingZeros body))
    some (if negative then '-' :: digits else digits)

def lenientWhole (text : List Char) : Except WholeError Int :=
  match strictWhole text with
  | .ok number => .ok number
  | .error .tooManyDigits => .error .tooManyDigits
  | .error .malformed =>
      match (cutDown? text).map strictWhole with
      | some (.ok number) => .ok number
      | _ => .error .malformed

/-- A number in lenient notation: blanks around it, or underscores in it. -/
def lenientNumber? (text : List Char) : Option Binary64 :=
  number? (Text.trimBy Text.isSpace text) <|> (dropScores? text).bind number?

end Reattempt.Decimal
