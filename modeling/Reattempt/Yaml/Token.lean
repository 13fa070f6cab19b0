import Reattempt.Decimal.Spoken
import Reattempt.Yaml.Scalar.Quoted
/-!
# Tokens

The tokens of a text are its scalars, its punctuation, and the marks at which a block collection
starts and ends, which the text shows by indentation only.
-/
set_option autoImplicit false

namespace Reattempt.Yaml

inductive Directive where
  | version (major : Nat)
  | handle (name start : String)
  | unknown
deriving DecidableEq

/-- A tag as it is written: the short name of its start, if it has one, and the rest. -/
structure TagName where
  handle : Option String
  suffix : String
deriving DecidableEq

inductive Token where
  | directive (directive : Directive)
  | documentStart
  | documentEnd
  | blockSequenceStart
  | blockMappingStart
  | blockEnd
  | flowSequenceStart
  | flowSequenceEnd
  | flowMappingStart
  | flowMappingEnd
  | blockEntry
  | flowEntry
  | key
  | value
  | aliased (name : String)
  | anchor (name : String)
  | tag (name : TagName)
  | scalar (text : LooseText) (isPlain : Bool)
deriving DecidableEq

namespace Token

def readName (cursor : Cursor) : Except Error (String × Cursor) :=
  let (name, after) := cursor.span isNameChar
  let follows := after.next.all fun c =>
    isSpaceOrTab c || isBreak c ||
      ['?', ':', ',', ']', '}', '%', '@', Char.ofNat 96].contains c
  if name.isEmpty || !follows then .error (.malformed .badName)
  else .ok (String.ofList name, after)

def isUriChar (c : Char) : Bool :=
  c.isAlphanum || ['-', ';', '/', '?', ':', '@', '&', '=', '+', '$', ',', '_', '.', '!', '~', '*',
    Text.singleQuote, '(', ')', '[', ']'].contains c

/-- The bytes of escapes of the form `%41`. -/
def escapedBytes : Nat → Cursor → Except Error (List UInt8 × Cursor)
  | 0, cursor => .ok ([], cursor)
  | fuel + 1, cursor =>
      if cursor.next = some '%' then
        let digits := (cursor.rest.drop 1).take 2
        match if digits.length = 2 then QuotedScalar.hexNumber? digits else none with
        | some byte =>
            (escapedBytes fuel (cursor.skip 3)).map fun (bytes, after) =>
              (UInt8.ofNat byte :: bytes, after)
        | none => .error (.malformed .badTag)
      else .ok ([], cursor)

def uriFrom : Nat → Cursor → Except Error (List Char × Cursor)
  | 0, cursor => .ok ([], cursor)
  | fuel + 1, cursor =>
      match cursor.next with
      | some c =>
          if c == '%' then do
            let (bytes, after) ← escapedBytes cursor.rest.length cursor
            match String.fromUTF8? ⟨bytes.toArray⟩ with
            | none => .error (.malformed .badTag)
            | some text =>
                let (later, behind) ← uriFrom fuel after
                .ok (text.toList ++ later, behind)
          else if isUriChar c then
            (uriFrom fuel cursor.step).map fun (later, after) => (c :: later, after)
          else .ok ([], cursor)
      | none => .ok ([], cursor)

def readUri (cursor : Cursor) : Except Error (String × Cursor) := do
  let (text, after) ← uriFrom (cursor.rest.length + 1) cursor
  if text.isEmpty then .error (.malformed .badTag) else .ok (String.ofList text, after)

/-- The short name of the start of a tag: one mark of exclamation, or a name between two. -/
def readHandle (cursor : Cursor) : Except Error (String × Cursor) :=
  if cursor.next ≠ some '!' then .error (.malformed .badTag)
  else if cursor.ahead 1 = some ' ' then .ok ("!", cursor.step)
  else
    let (name, after) := cursor.step.span isNameChar
    if after.next = some '!' then .ok ("!" ++ String.ofList name ++ "!", after.step)
    else .error (.malformed .badTag)

def readTag (cursor : Cursor) : Except Error (Token × Cursor) := do
  let (name, after) ←
    match cursor.ahead 1 with
    | some '<' => do
        let (suffix, after) ← readUri (cursor.skip 2)
        if after.next = some '>' then pure (⟨none, suffix⟩, after.step)
        else throw (.malformed .badTag)
    | next =>
        if endsWord next then pure (⟨none, "!"⟩, cursor.step)
        else do
          let word := (cursor.rest.drop 1).takeWhile fun c => !endsAtSpace (some c)
          let (handle, behind) ←
            if word.contains '!' then readHandle cursor else pure ("!", cursor.step)
          let (suffix, after) ← readUri behind
          pure (⟨some handle, suffix⟩, after)
  if endsAtSpace after.next then return (.tag name, after) else throw (.malformed .badTag)

def readDigits (cursor : Cursor) : Except Error (Nat × Cursor) :=
  let (digits, after) := cursor.span Char.isDigit
  if digits.isEmpty then .error (.malformed .badDirective)
  else if Decimal.maxDigits < digits.length then
    .error (.raised (.valueError (Decimal.tooManyDigits digits.length)))
  else .ok (Decimal.naturalOf digits, after)

def readVersion (cursor : Cursor) : Except Error (Directive × Cursor) := do
  let (major, point) ← readDigits cursor.skipSpaces
  if point.next ≠ some '.' then throw (.malformed .badDirective)
  let (_, after) ← readDigits point.step
  if endsAtSpace after.next then return (.version major, after)
  else throw (.malformed .badDirective)

def readHandleDirective (cursor : Cursor) : Except Error (Directive × Cursor) := do
  let (name, between) ← readHandle cursor.skipSpaces
  if between.next ≠ some ' ' then throw (.malformed .badDirective)
  let (start, after) ← readUri between.skipSpaces
  if endsAtSpace after.next then return (.handle name start, after)
  else throw (.malformed .badDirective)

def readDirective (cursor : Cursor) : Except Error (Token × Cursor) := do
  let (name, after) := cursor.step.span isNameChar
  if name.isEmpty || !endsAtSpace after.next then throw (.malformed .badDirective)
  let (meaning, behind) ←
    match String.ofList name with
    | "YAML" => readVersion after
    | "TAG" => readHandleDirective after
    | _ => pure (.unknown, after.skipWhile fun c => !isBreak c)
  let last := behind.skipSpaces.skipComment
  if endsLine last.next then return (.directive meaning, last.skipBreak)
  else throw (.malformed .badDirective)

end Token

/-- The tokens of a text, and what ended them if it was not the end of the text. -/
structure TokenStream where
  tokens : List Token
  fault : Option Error

end Reattempt.Yaml
