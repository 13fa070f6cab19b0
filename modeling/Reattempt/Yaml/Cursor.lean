import Reattempt.Failure
/-!
# Places in a text

A cursor is a place in a text: what is left of it, and the line and column reached. A byte order
mark takes no column.
-/
set_option autoImplicit false

namespace Reattempt.Yaml

inductive Fault where
  | unprintable
  | strayCharacter
  | badDirective
  | badName
  | badTag
  | badEscape
  | badBlockHeader
  | unclosedQuote
  | missingColon
  | misplacedEntry
  | misplacedKey
  | misplacedValue
  | unexpectedToken
  | unknownHandle
  | unknownAlias
  | repeatedAnchor
  | severalDocuments
  | unknownTag
  | wrongKind
  | badMerge
  | badKey
deriving DecidableEq

/-- Why a text gives no value: it is no document, or making its value raised something. -/
inductive Error where
  | malformed (fault : Fault)
  | raised (failure : Failure)
deriving DecidableEq

/-- The line separators; a carriage return is one before the lines are told apart. -/
def isBreak (c : Char) : Bool :=
  c == '\n' || c == Char.ofNat 0x85 || c == Char.ofNat 0x2028 || c == Char.ofNat 0x2029

def isSpaceOrTab (c : Char) : Bool := c == ' ' || c == '\t'

def endsLine (next : Option Char) : Bool := next.all isBreak

def endsWord (next : Option Char) : Bool := next.all fun c => isSpaceOrTab c || isBreak c

/-- Whether a word ends here, a tab not counting. -/
def endsAtSpace (next : Option Char) : Bool := next.all fun c => c == ' ' || isBreak c

def isNameChar (c : Char) : Bool := c.isAlphanum || c == '-' || c == '_'

def byteOrderMark : Char := Char.ofNat 0xFEFF

def breakText (c : Char) : Char := if c == Char.ofNat 0x85 then '\n' else c

structure Cursor where
  rest : List Char
  index : Nat := 0
  line : Nat := 0
  column : Nat := 0

namespace Cursor

def next (cursor : Cursor) : Option Char := cursor.rest.head?

def ahead (cursor : Cursor) (places : Nat) : Option Char := cursor.rest[places]?

def step (cursor : Cursor) : Cursor :=
  match cursor.rest with
  | [] => cursor
  | c :: rest =>
      if isBreak c then ⟨rest, cursor.index + 1, cursor.line + 1, 0⟩
      else if c = byteOrderMark then ⟨rest, cursor.index + 1, cursor.line, cursor.column⟩
      else ⟨rest, cursor.index + 1, cursor.line, cursor.column + 1⟩

def skip : Nat → Cursor → Cursor
  | 0, cursor => cursor
  | count + 1, cursor => skip count cursor.step

def span (cursor : Cursor) (belongs : Char → Bool) : List Char × Cursor :=
  let run := cursor.rest.takeWhile belongs
  (run, cursor.skip run.length)

def skipWhile (cursor : Cursor) (belongs : Char → Bool) : Cursor := (cursor.span belongs).2

def skipSpaces (cursor : Cursor) : Cursor := cursor.skipWhile (· == ' ')

def skipComment (cursor : Cursor) : Cursor :=
  if cursor.next = some '#' then cursor.skipWhile fun c => !isBreak c else cursor

def skipBreak (cursor : Cursor) : Cursor := if cursor.next.any isBreak then cursor.step else cursor

/-- Whether three dashes or three dots stand here as a word. -/
def atDocumentMark (cursor : Cursor) : Bool :=
  let mark := cursor.rest.take 3
  (mark == ['-', '-', '-'] || mark == ['.', '.', '.']) && endsWord (cursor.ahead 3)

end Cursor

/-- Separators as they count between two parts of a scalar: a single newline is a space, and of
several newlines the first is dropped. -/
def folded : List Char → List Char
  | [] => []
  | first :: others =>
      if first ≠ '\n' then first :: others else if others.isEmpty then [' '] else others

end Reattempt.Yaml
