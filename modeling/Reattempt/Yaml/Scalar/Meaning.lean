import Reattempt.Base64
import Reattempt.Decimal.Spoken
import Reattempt.Text.Loose
import Reattempt.Text.Lowercase
import Reattempt.Value
import Reattempt.Yaml.Cursor
import Reattempt.Yaml.Tag
/-!
# Values of scalars

The value of a scalar is read from its text as its tag says. A scalar without a tag has a text that
suits its kind, but dates off the calendar and a base without digits remain; they raise failures, as
does any text that does not suit a tag that is written out. Texts are taken as code points.
-/
set_option autoImplicit false

namespace Reattempt.Yaml.Scalar

def withoutScores (codes : List Nat) : List Nat := codes.filter (· != '_'.toNat)

def charactersOf (codes : List Nat) : List Char := codes.map Char.ofNat

def outOfRange : Failure := ⟨⟨"IndexError", ["LookupError", "Exception", "BaseException"]⟩,
  some "string index out of range"⟩

def maxShown : Nat := 200

def wholeMessage (base : Nat) (codes : List Nat) : Decimal.SpokenError → String
  | .malformed =>
      "invalid literal for int() with base " ++ toString base ++ ": " ++
        String.ofList ((Text.quotedCodes codes).toList.take maxShown)
  | .tooManyDigits count => Decimal.tooManyDigits count

def wholeOf (base : Nat) (codes : List Nat) : Except Failure Int :=
  match Decimal.spokenWhole base (charactersOf codes) with
  | .ok number => .ok number
  | .error error => .error (.valueError (wholeMessage base codes error))

def numberOf (codes : List Nat) : Except Failure Binary64 :=
  match Decimal.spokenNumber? (charactersOf codes) with
  | some number => .ok number
  | none =>
      .error (.valueError ("could not convert string to float: " ++ Text.quotedCodes codes))

def signOf (codes : List Nat) : Except Failure (Bool × List Nat) :=
  match codes with
  | [] => .error outOfRange
  | code :: rest =>
      .ok (if code = '-'.toNat then (true, rest)
        else if code = '+'.toNat then (false, rest)
        else (false, codes))

def colonParts (codes : List Nat) : List (List Nat) := Tag.partsBetween ':'.toNat codes

/-- Whole numbers in base sixty, most significant first. -/
def sixtiethsOf (parts : List Int) : Int := parts.foldl (fun total part => total * 60 + part) 0

def int (codes : List Nat) : Except Failure Int := do
  let (negative, body) ← signOf (withoutScores codes)
  let signed (number : Int) : Int := if negative then -number else number
  match charactersOf body with
  | [] => throw outOfRange
  | ['0'] => return 0
  | '0' :: 'b' :: _ => return signed (← wholeOf 2 (body.drop 2))
  | '0' :: 'x' :: _ => return signed (← wholeOf 16 (body.drop 2))
  | '0' :: _ => return signed (← wholeOf 8 body)
  | characters =>
      if characters.contains ':' then
        return signed (sixtiethsOf (← (colonParts body).mapM (wholeOf 10)))
      else return signed (← wholeOf 10 body)

/-- Parts in base sixty, least significant first, added up from there. -/
def addSixtieths : List Binary64 → Int → Binary64 → Except Failure Binary64
  | [], _, total => .ok total
  | part :: parts, place, total =>
      let scale := Binary64.ofInt place
      if scale.isFinite then addSixtieths parts (place * 60) (total + part * scale)
      else .error ⟨.overflowError, some "int too large to convert to float"⟩

/-- The sign of a number with a fraction, and what stands behind it in lower case. -/
def numberParts (codes : List Nat) : Except Failure (Bool × List Nat) :=
  signOf (Text.lower (withoutScores codes))

def float (codes : List Nat) : Except Failure Binary64 := do
  let (negative, body) ← numberParts codes
  let sign : Binary64 := Binary64.ofInt (if negative then -1 else 1)
  match String.ofList (charactersOf body) with
  | ".inf" => return .infinite negative
  | ".nan" => return .nan
  | _ =>
      if (charactersOf body).contains ':' then
        let parts ← (colonParts body).mapM numberOf
        return sign * (← addSixtieths parts.reverse 1 .zero)
      else return sign * (← numberOf body)

def isNoNumber (codes : List Nat) : Bool :=
  match numberParts codes with
  | .ok (_, body) => charactersOf body == ".nan".toList
  | .error _ => false

def bool (codes : List Nat) : Except Failure Bool :=
  let word := String.ofList (charactersOf (Text.lower codes))
  match Tag.boolWords.lookup word with
  | some value => .ok value
  | none => .error ⟨.keyError, some word⟩

def timestamp (codes : List Nat) : Except Failure Value :=
  match Timestamp.ofText? (charactersOf codes) with
  | some date =>
      date.fault?.elim (.ok (.date date.shown date.moment)) fun fault =>
        .error (.valueError fault)
  | none =>
      .error ⟨⟨"AttributeError", ["Exception", "BaseException"]⟩,
        some "'NoneType' object has no attribute 'groupdict'"⟩

def bytes? (codes : List Nat) : Option (List UInt8) :=
  if codes.all fun code => decide (code < 128) then Base64.decode? (charactersOf codes) else none

def text : LooseText → Value
  | .text value => .text value
  | .broken codes => .brokenText codes

variable {α : Type}

def raising (made : Except Failure α) : Except Error α :=
  match made with
  | .ok value => .ok value
  | .error failure => .error (.raised failure)

/-- The value of a text under a tag, if the tag is one for texts. -/
def valueOf (tag : Tag) (written : LooseText) : Except Error Value :=
  let codes := written.codes
  match tag with
  | .null => .ok .null
  | .bool => raising ((bool codes).map Value.bool)
  | .int => raising ((int codes).map Value.int)
  | .float => raising ((float codes).map Value.float)
  | .timestamp => raising (timestamp codes)
  | .text => .ok (text written)
  | .binary => (bytes? codes).elim (.error (.malformed .wrongKind)) fun bytes => .ok (.bytes bytes)
  | _ => .error (.malformed .unknownTag)

end Reattempt.Yaml.Scalar
