import Reattempt.Decimal.Limit
import Reattempt.Decimal.Reading
import Reattempt.Text.Blank
import Reattempt.Text.Digit
/-!
# Numbers as people type them

Numbers that come as free text may have blanks around them, digits of any script, and single
underscores between digits. Whole numbers may be in another base, with its mark in front of them.
-/
set_option autoImplicit false

namespace Reattempt.Decimal

def digitIn? (base : Nat) (c : Char) : Option Nat :=
  let plain := Text.plainDigit c
  let value :=
    if plain.isDigit then some (digitValue plain)
    else if 'a' ≤ c ∧ c ≤ 'f' then some (c.toNat - 'a'.toNat + 10)
    else if 'A' ≤ c ∧ c ≤ 'F' then some (c.toNat - 'A'.toNat + 10)
    else none
  value.filter fun digit => decide (digit < base)

def baseMark? : Nat → Option Char
  | 2 => some 'b'
  | 8 => some 'o'
  | 16 => some 'x'
  | _ => none

def dropBaseMark (base : Nat) (text : List Char) : List Char :=
  match text with
  | '0' :: mark :: rest =>
      if (baseMark? base).any fun letter => letter == mark.toLower then
        match rest with
        | '_' :: digits => digits
        | digits => digits
      else text
  | _ => text

inductive SpokenError where
  | malformed
  | tooManyDigits (count : Nat)
deriving DecidableEq

def tooManyDigits (count : Nat) : String :=
  "Exceeds the limit (" ++ toString maxDigits ++
    " digits) for integer string conversion: value has " ++ toString count ++
    " digits; use sys.set_int_max_str_digits() to increase the limit"

/-- A whole number in a base. Too many digits are noticed before anything behind them. -/
def spokenWhole (base : Nat) (text : List Char) : Except SpokenError Int :=
  let (negative, body) := spanSign (Text.trimBy Text.isSpace text)
  let isDigit (c : Char) : Bool := (digitIn? base c).isSome
  let (spelled, rest) := (dropBaseMark base body).span fun c => isDigit c || c == '_'
  match dropUnderscores? isDigit ' ' spelled with
  | none => .error .malformed
  | some digits =>
      if base = 10 ∧ maxDigits < digits.length then .error (.tooManyDigits digits.length)
      else if digits.isEmpty || !rest.isEmpty then .error .malformed
      else
        let total := digits.foldl (fun total c => total * base + (digitIn? base c).getD 0) 0
        .ok (if negative then -(total : Int) else total)

def spokenWhole? (base : Nat) (text : List Char) : Option Int := (spokenWhole base text).toOption

def spokenNumber? (text : List Char) : Option Binary64 :=
  let plain := (Text.trimBy Text.isSpace text).map Text.plainDigit
  (dropUnderscores? Char.isDigit ' ' plain).bind number?

end Reattempt.Decimal
