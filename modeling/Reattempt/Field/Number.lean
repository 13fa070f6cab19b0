import Reattempt.Problem
import Reattempt.Value
import Reattempt.Decimal.Lenient
/-!
# Reading numbers from values

Fields take whole numbers and numbers in several kinds of values: truth values count as 0 and 1, and
text may hold a number in lenient notation. The strict readers take numbers only.
-/
set_option autoImplicit false

namespace Reattempt.Field

def textOfBytes? (bytes : List UInt8) : Option String :=
  String.fromUTF8? ⟨bytes.toArray⟩

def integerOfText (text : List Char) : Except Fault Int :=
  match Decimal.lenientWhole text with
  | .ok number => .ok number
  | .error .tooManyDigits => .error .integerSize
  | .error .malformed => .error .integerText

def numberOfInt? (value : Int) : Option Binary64 :=
  let number := Binary64.ofInt value
  if number.isFinite then some number else none

def integer (value : Value) : Except Fault Int :=
  match value with
  | .int value => .ok value
  | .bool value => .ok (if value then 1 else 0)
  | .float value =>
      if !value.isFinite then .error .notFinite
      else if !value.isWhole then .error .integerPart
      else if Nat.pow 2 63 ≤ value.truncate.natAbs then .error .integerSize
      else .ok value.truncate
  | .text text => integerOfText text.toList
  | .brokenText _ => .error .textEncoding
  | .bytes bytes =>
      (textOfBytes? bytes).elim (.error .integerText) fun text => integerOfText text.toList
  | _ => .error .integerKind

def number (value : Value) : Except Fault Binary64 :=
  match value with
  | .float value => .ok value
  | .int value => (numberOfInt? value).elim (.error .numberKind) .ok
  | .bool value => .ok (Binary64.ofInt (if value then 1 else 0))
  | .text text => (Decimal.lenientNumber? text.toList).elim (.error .numberText) .ok
  | .brokenText _ => .error .textEncoding
  | .bytes bytes =>
      ((textOfBytes? bytes).bind fun text => Decimal.lenientNumber? text.toList).elim
        (.error .numberText) .ok
  | _ => .error .numberKind

def strictInteger? : Value → Option Int
  | .int value => some value
  | _ => none

def strictNumber? : Value → Option Binary64
  | .float value => some value
  | .int value => numberOfInt? value
  | _ => none

end Reattempt.Field
