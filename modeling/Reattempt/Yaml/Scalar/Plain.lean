import Reattempt.Text.Quoted
import Reattempt.Yaml.Cursor
/-!
# Plain scalars

A plain scalar has no quotes. It ends at a colon or comment that is set off by blanks, in a flow
collection also at its punctuation, and otherwise where the indentation ends. It may go on over
several lines.
-/
set_option autoImplicit false

namespace Reattempt.Yaml

/-- A plain scalar, the place behind it and the gap after it, and whether that gap has a line
separator in it. -/
structure PlainScalar where
  text : List Char
  cursor : Cursor
  crossesLine : Bool

namespace PlainScalar

def flowMarks : List Char := [',', '[', ']', '{', '}']

def starts (inFlow : Bool) (c : Char) (after : Option Char) : Bool :=
  let indicators := ['-', '?', ':', ',', '[', ']', '{', '}', '#', '&', '*', '!', '|', '>',
    Text.singleQuote, Text.doubleQuote, '%', '@', Char.ofNat 96]
  (!isSpaceOrTab c && !isBreak c && !indicators.contains c) ||
    (!endsWord after && (c == '-' || (!inFlow && (c == '?' || c == ':'))))

def stops (inFlow : Bool) (c : Char) (after : Option Char) : Bool :=
  isSpaceOrTab c || isBreak c ||
    (c == ':' && (endsWord after || (inFlow && after.any flowMarks.contains))) ||
    (inFlow && (c == '?' || flowMarks.contains c))

def runLength (inFlow : Bool) : List Char → Nat
  | [] => 0
  | c :: rest => if stops inFlow c rest.head? then 0 else runLength inFlow rest + 1

structure Gap where
  text : List Char
  cursor : Cursor
  crossesLine : Bool

/-- Line separators with spaces among them. A document mark at the start of a line ends them, and
the scalar with them. -/
def breaks : Nat → Cursor → Option (List Char) × Cursor
  | 0, cursor => (some [], cursor)
  | fuel + 1, cursor =>
      match cursor.next with
      | some c =>
          if c == ' ' then breaks fuel cursor.step
          else if isBreak c then
            if cursor.step.atDocumentMark then (none, cursor.step)
            else
              let (others, after) := breaks fuel cursor.step
              (others.map fun others => breakText c :: others, after)
          else (some [], cursor)
      | none => (some [], cursor)

def gap (cursor : Cursor) : Gap :=
  let (spaces, after) := cursor.span (· == ' ')
  if after.next.any isBreak then
    let (separators, behind) := breaks (after.rest.length + 1) after
    ⟨(separators.map folded).getD [], behind, true⟩
  else ⟨spaces, after, false⟩

def readFrom (inFlow : Bool) (indent : Nat) : Nat → Gap → PlainScalar
  | 0, gap => ⟨[], gap.cursor, gap.crossesLine⟩
  | fuel + 1, before =>
      let cursor := before.cursor
      let length := if cursor.next = some '#' then 0 else runLength inFlow cursor.rest
      if length = 0 then ⟨[], cursor, before.crossesLine⟩
      else
        let after := gap (cursor.skip length)
        let ends := after.text.isEmpty || after.cursor.next == some '#' ||
          (!inFlow && decide (after.cursor.column < indent))
        let later : PlainScalar :=
          if ends then ⟨[], after.cursor, after.crossesLine⟩
          else readFrom inFlow indent fuel after
        { later with text := before.text ++ cursor.rest.take length ++ later.text }

/-- The plain scalar that starts here. Further lines are indented at least this far. -/
def read (inFlow : Bool) (indent : Nat) (cursor : Cursor) : PlainScalar :=
  readFrom inFlow indent cursor.rest.length ⟨[], cursor, false⟩

end PlainScalar
end Reattempt.Yaml
