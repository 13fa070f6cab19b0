import Reattempt.Text.Printable
/-!
# Quoted text

Text is quoted in single quotes, or in double quotes if it holds a single quote and no double one.
The quote in use, the backslash and whatever is not printable are written as escapes. So are code
points that are no characters.
-/
set_option autoImplicit false

namespace Reattempt.Text

def singleQuote : Char := Char.ofNat 39

def doubleQuote : Char := Char.ofNat 34

def hexText (count value : Nat) : String :=
  let digits := Nat.toDigits 16 value
  String.ofList (List.replicate (count - digits.length) '0' ++ digits)

def numericEscape (code : Nat) : String :=
  if code < 0x100 then "\\x" ++ hexText 2 code
  else if code < 0x10000 then "\\u" ++ hexText 4 code
  else "\\U" ++ hexText 8 code

def escaped (quote : Char) (c : Char) : String :=
  if c = quote ∨ c = '\\' then String.ofList ['\\', c]
  else if c = '\n' then "\\n"
  else if c = '\r' then "\\r"
  else if c = '\t' then "\\t"
  else if isPrintable c then String.singleton c
  else numericEscape c.toNat

def quoteFor (text : List Char) : Char :=
  if text.contains singleQuote && !text.contains doubleQuote then doubleQuote else singleQuote

def between (quote : Char) (body : String) : String :=
  String.singleton quote ++ body ++ String.singleton quote

def quoted (text : String) : String :=
  let quote := quoteFor text.toList
  between quote (String.join (text.toList.map (escaped quote)))

def escapedCode (quote : Char) (code : Nat) : String :=
  if code.isValidChar then escaped quote (Char.ofNat code) else numericEscape code

def quotedCodes (codes : List Nat) : String :=
  let quote := quoteFor (codes.map Char.ofNat)
  between quote (String.join (codes.map (escapedCode quote)))

/-- Bytes are quoted as text of one-byte characters, where only ASCII is printable. -/
def quotedBytes (bytes : List UInt8) : String :=
  let text := bytes.map fun byte => Char.ofNat byte.toNat
  let quote := quoteFor text
  let body := text.map fun c =>
    if c.toNat < 0x7f then escaped quote c else "\\x" ++ hexText 2 c.toNat
  "b" ++ between quote (String.join body)

end Reattempt.Text
