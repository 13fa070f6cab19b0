import Reattempt.Decimal.Digits
/-!
# Writing binary64 numbers in decimal

`Layout.render` lays chosen digits out; a `Layout` value holds the decisions of one output format.
Fixed places are separate: they round the exact value at the last place.
-/
set_option autoImplicit false

namespace Reattempt.Decimal

/-- When digits are written without an exponent, and what a whole number ends in. -/
structure Layout where
  positionalFrom : Int
  positionalBelow : Int
  wholeEnding : String

/-- Numbers as they are quoted in messages: positional from `0.0001` up to below `1e16`. -/
def Layout.quoted : Layout := ⟨-4, 16, ".0"⟩

def Layout.summary : Layout := ⟨-4, 6, ""⟩

def padLeft (width : Nat) (text : String) : String :=
  String.ofList (List.replicate (width - text.length) '0') ++ text

/-- An exponent has a sign and at least two digits. -/
def exponentText (exponent : Int) : String :=
  (if exponent < 0 then "e-" else "e+") ++ padLeft 2 (toString exponent.natAbs)

def Layout.render (layout : Layout) (value : Scaled) : String :=
  let digits := (toString value.digits).toList
  let leading : Int := value.exponent + (digits.length - 1 : Nat)
  if leading < layout.positionalFrom ∨ layout.positionalBelow ≤ leading then
    let tail := digits.drop 1
    String.ofList (digits.take 1) ++
      (if tail.isEmpty then "" else "." ++ String.ofList tail) ++ exponentText leading
  else if 0 ≤ value.exponent then
    String.ofList (digits ++ List.replicate value.exponent.toNat '0') ++ layout.wholeEnding
  else if leading < 0 then
    "0." ++ String.ofList (List.replicate (-leading - 1).toNat '0' ++ digits)
  else
    String.ofList (digits.take (leading.toNat + 1)) ++ "." ++
      String.ofList (digits.drop (leading.toNat + 1))

def signText (negative : Bool) : String := if negative then "-" else ""

/-- The shortest text that reads back as the number. -/
def quotedText : Binary64 → String
  | .nan _ => "nan"
  | .infinite negative => signText negative ++ "inf"
  | .finite negative mantissa shift _ =>
      signText negative ++
        (if mantissa = 0 then "0.0" else Layout.quoted.render (shortest mantissa shift))

def summaryText : Binary64 → String
  | .nan _ => "nan"
  | .infinite negative => signText negative ++ "inf"
  | .finite negative mantissa shift _ =>
      signText negative ++
        (if mantissa = 0 then "0"
        else Layout.summary.render
          (dropZeros 6 (significant (mantissa * Nat.pow 2 shift) Binary64.unit 6)))

/-- Exactly `places` digits after the point, the exact value rounded half to even. -/
def placesText (places : Nat) : Binary64 → String
  | .nan _ => "nan"
  | .infinite negative => signText negative ++ "inf"
  | .finite negative mantissa shift _ =>
      let units := nearestEven (mantissa * Nat.pow 2 shift * Nat.pow 10 places) Binary64.unit
      signText negative ++ toString (units / Nat.pow 10 places) ++ "." ++
        padLeft places (toString (units % Nat.pow 10 places))

end Reattempt.Decimal
