import Reattempt.Binary64
/-!
# Reading decimal numbers

`number?` reads `[sign] digits [. digits] [e [sign] digits]`, where digits may stand on one side of
the point only, and the words for infinity and not-a-number in any case. The value is rounded once.
-/
set_option autoImplicit false

namespace Reattempt.Decimal

def digitValue (c : Char) : Nat := c.toNat - '0'.toNat

/-- Decimal digits, most significant first. -/
def naturalOf (digits : List Char) : Nat :=
  digits.foldl (fun total c => total * 10 + digitValue c) 0

def spanDigits (text : List Char) : List Char × List Char := text.span Char.isDigit

/-- The number nearest to `digits * 10 ^ exponent`. Far outside the range the answer is known
without raising ten to a large power. -/
def binary64Of (negative : Bool) (digits : Nat) (exponent : Int) : Binary64 :=
  let size : Int := (toString digits).length
  if digits = 0 then .finite negative 0 0 Binary64.canonical_zero
  else if 400 < size + exponent then .infinite negative
  else if size + exponent < -400 then .finite negative 0 0 Binary64.canonical_zero
  else
    Binary64.ofQuanta negative (digits * Nat.pow 10 exponent.toNat * Binary64.unit)
      (Nat.pow 10 (-exponent).toNat)

/-- A leading sign; `true` for a minus. -/
def spanSign : List Char → Bool × List Char
  | '-' :: rest => (true, rest)
  | '+' :: rest => (false, rest)
  | rest => (false, rest)

/-- What follows the mantissa: nothing, or an exponent up to the end. -/
def exponent? : List Char → Option Int
  | [] => some 0
  | mark :: rest =>
      if mark = 'e' ∨ mark = 'E' then
        let (negative, body) := spanSign rest
        let (digits, left) := spanDigits body
        if digits.isEmpty || !left.isEmpty then none
        else some (if negative then -(naturalOf digits : Int) else naturalOf digits)
      else none

def unsigned? (negative : Bool) (text : List Char) : Option Binary64 :=
  let (whole, afterWhole) := spanDigits text
  let (places, rest) :=
    match afterWhole with
    | '.' :: afterPoint => spanDigits afterPoint
    | _ => ([], afterWhole)
  if whole.isEmpty && places.isEmpty then none
  else (exponent? rest).map fun exponent =>
    binary64Of negative (naturalOf (whole ++ places)) (exponent - places.length)

def number? (text : List Char) : Option Binary64 :=
  let (negative, body) := spanSign text
  let word := String.ofList (body.map Char.toLower)
  if word = "inf" ∨ word = "infinity" then some (.infinite negative)
  else if word = "nan" then some .nan
  else unsigned? negative body

/-- Without the underscores, if each of them stands between two digits. -/
def dropUnderscores? (isDigit : Char → Bool) : Char → List Char → Option (List Char)
  | _, [] => some []
  | before, '_' :: rest =>
      match rest with
      | after :: _ =>
          if isDigit before && isDigit after then dropUnderscores? isDigit '_' rest else none
      | [] => none
  | _, c :: rest => (dropUnderscores? isDigit c rest).map (c :: ·)

end Reattempt.Decimal
