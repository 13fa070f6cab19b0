/-!
# Base64

Each character of the alphabet stands for six bits, the most significant first. Other characters
are passed over. Padding that fills up a group of four characters ends the text; without it the
last group has to be whole.
-/
set_option autoImplicit false

namespace Reattempt.Base64

def digit? (c : Char) : Option Nat :=
  if 'A' ≤ c ∧ c ≤ 'Z' then some (c.toNat - 'A'.toNat)
  else if 'a' ≤ c ∧ c ≤ 'z' then some (c.toNat - 'a'.toNat + 26)
  else if c.isDigit then some (c.toNat - '0'.toNat + 52)
  else if c = '+' then some 62
  else if c = '/' then some 63
  else none

/-- The bytes of the rest of a text. The group under way has this many characters, bits of them that
make up no byte yet, and pads behind its last character. -/
def decodeFrom (size bits pads : Nat) : List Char → Option (List UInt8)
  | [] => if size = 0 then some [] else none
  | c :: rest =>
      if c = '=' then
        if size < 2 then decodeFrom size bits pads rest
        else if 4 ≤ size + pads + 1 then some []
        else decodeFrom size bits (pads + 1) rest
      else
        match digit? c, size with
        | none, _ => decodeFrom size bits pads rest
        | some digit, 0 => decodeFrom 1 digit 0 rest
        | some digit, 1 =>
            (decodeFrom 2 (digit % 16) 0 rest).map (UInt8.ofNat (bits * 4 + digit / 16) :: ·)
        | some digit, 2 =>
            (decodeFrom 3 (digit % 4) 0 rest).map (UInt8.ofNat (bits * 16 + digit / 4) :: ·)
        | some digit, _ =>
            (decodeFrom 0 0 0 rest).map (UInt8.ofNat (bits * 64 + digit) :: ·)

def decode? (text : List Char) : Option (List UInt8) := decodeFrom 0 0 0 text

end Reattempt.Base64
