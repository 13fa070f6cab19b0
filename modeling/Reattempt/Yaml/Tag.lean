import Reattempt.Yaml.Timestamp
/-!
# Tags

A tag says of what kind a node is. A scalar whose tag is left open gets the kind whose form it
has, and is text if it has none of them. One newline at the end of the text does not count.
-/
set_option autoImplicit false

namespace Reattempt.Yaml

inductive Tag where
  | null
  | bool
  | int
  | float
  | timestamp
  | text
  | binary
  | sequence
  | mapping
  | set
  /-- A sequence of mappings with one entry each, with or without an order of its own. -/
  | pairs
  /-- The key under which a mapping is merged with others. -/
  | merge
  /-- The key of a default value. -/
  | value
  | foreign (name : String)
deriving DecidableEq

namespace Tag

def standardStart : String := "tag:yaml.org,2002:"

def standard : List (String × Tag) :=
  [("null", .null), ("bool", .bool), ("int", .int), ("float", .float),
    ("timestamp", .timestamp), ("str", .text), ("binary", .binary), ("seq", .sequence),
    ("map", .mapping), ("set", .set), ("omap", .pairs), ("pairs", .pairs), ("merge", .merge),
    ("value", .value)]

def ofName (name : String) : Tag :=
  ((standard.map fun (short, tag) => (standardStart ++ short, tag)).lookup name).getD
    (.foreign name)

def nullWords : List String := ["", "~", "null", "Null", "NULL"]

def boolWords : List (String × Bool) :=
  [("yes", true), ("no", false), ("true", true), ("false", false), ("on", true), ("off", false)]

def spellings (word : String) : List String :=
  let capital := match word.toList with
    | [] => ""
    | c :: rest => String.ofList (c.toUpper :: rest)
  [word, capital, String.ofList (word.toList.map Char.toUpper)]

def isBoolWord (text : String) : Bool :=
  boolWords.any fun (word, _) => (spellings word).contains text

def isDigitOrScore (c : Char) : Bool := c.isDigit || c == '_'

def unsigned (text : List Char) : List Char := (Decimal.spanSign text).2

/-- A part of a number in base sixty: one digit, or two of which the first is at most five. -/
def isSixtieth (text : List Char) : Bool :=
  match text with
  | [digit] => digit.isDigit
  | [ten, digit] => decide ('0' ≤ ten ∧ ten ≤ '5') && digit.isDigit
  | _ => false

def partsBetween {α : Type} [BEq α] (mark : α) : List α → List (List α)
  | [] => [[]]
  | item :: rest =>
      match item == mark, partsBetween mark rest with
      | false, part :: parts => (item :: part) :: parts
      | _, parts => [] :: parts

def colonParts (text : List Char) : List (List Char) := partsBetween ':' text

def isInt (text : List Char) : Bool :=
  match unsigned text with
  | ['0'] => true
  | '0' :: 'b' :: digits => !digits.isEmpty && digits.all fun c => c == '0' || c == '1' || c == '_'
  | '0' :: 'x' :: digits =>
      !digits.isEmpty && digits.all fun c =>
        isDigitOrScore c || decide ('a' ≤ c ∧ c ≤ 'f') || decide ('A' ≤ c ∧ c ≤ 'F')
  | '0' :: digits => digits.all fun c => decide ('0' ≤ c ∧ c ≤ '7') || c == '_'
  | body =>
      match colonParts body with
      | whole :: sixtieths =>
          whole.head?.any Char.isDigit && whole.all isDigitOrScore && sixtieths.all isSixtieth
      | [] => false

def isExponent : List Char → Bool
  | [] => true
  | mark :: sign :: digits =>
      (mark == 'e' || mark == 'E') && (sign == '+' || sign == '-') && !digits.isEmpty &&
        digits.all Char.isDigit
  | _ => false

/-- A number with a point: decimal, or in base sixty before the point. -/
def isPointed (text : List Char) : Bool :=
  let (whole, behind) := (unsigned text).span (· != '.')
  match colonParts whole, behind with
  | decimal :: sixtieths, '.' :: places =>
      let startsWell := (decimal.head?.any Char.isDigit) && decimal.all isDigitOrScore
      if sixtieths.isEmpty then
        startsWell && isExponent (places.dropWhile isDigitOrScore)
      else startsWell && sixtieths.all isSixtieth && places.all isDigitOrScore
  | _, _ => false

def isFraction (text : List Char) : Bool :=
  match text with
  | '.' :: first :: rest => first.isDigit && isExponent (rest.dropWhile isDigitOrScore)
  | _ => false

def isFloat (text : List Char) : Bool :=
  let word := String.ofList text
  isPointed text || isFraction text ||
    [".inf", ".Inf", ".INF"].contains (String.ofList (unsigned text)) ||
    [".nan", ".NaN", ".NAN"].contains word

def reservedWords : List String := ["!", "&", "*"]

/-- The tag of a text by its form. -/
def ofForm (text : String) : Tag :=
  let characters := text.toList
  if nullWords.contains text then .null
  else if isBoolWord text then .bool
  else if isFloat characters then .float
  else if isInt characters then .int
  else if text = "<<" then .merge
  else if text = "=" then .value
  else if Timestamp.isForm characters then .timestamp
  else if reservedWords.contains text then .foreign (standardStart ++ "yaml")
  else .text

/-- The tag of a scalar whose tag is left open. -/
def ofText (text : String) : Tag :=
  if text = "\n" then .text else ofForm (String.ofList (Timestamp.dropNewline text.toList))

end Tag
end Reattempt.Yaml
