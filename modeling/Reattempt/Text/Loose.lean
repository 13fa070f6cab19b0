import Reattempt.Text.Quoted
/-!
# Loose text

Escapes can name code points that are no characters. Text with such a code point in it is broken:
it is kept and shown as it is, but it says nothing.
-/
set_option autoImplicit false

namespace Reattempt

inductive LooseText where
  | text (value : String)
  | broken (codes : List Nat)
deriving DecidableEq

namespace LooseText

def ofCodes (codes : List Nat) : LooseText :=
  if codes.all fun code => decide code.isValidChar then
    .text (String.ofList (codes.map Char.ofNat))
  else .broken codes

def codes : LooseText → List Nat
  | .text value => value.toList.map Char.toNat
  | .broken codes => codes

def text? : LooseText → Option String
  | .text value => some value
  | .broken _ => none

def quoted : LooseText → String
  | .text value => Text.quoted value
  | .broken codes => Text.quotedCodes codes

end LooseText
end Reattempt
