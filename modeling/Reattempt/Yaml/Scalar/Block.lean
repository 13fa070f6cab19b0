import Reattempt.Yaml.Cursor
/-!
# Block scalars

A block scalar is a series of indented lines below its header. The literal form keeps the line
separators, the folded form joins lines of text. The header may say how far the lines are indented
and what becomes of the separators at the end.
-/
set_option autoImplicit false

namespace Reattempt.Yaml.BlockScalar

/-- What becomes of the line separators at the end: one stays, none does, or all do. -/
inductive Chomping where
  | clip
  | strip
  | keep
deriving DecidableEq

structure Header where
  chomping : Chomping := .clip
  indentation : Option Nat := none

def chomping? : Char → Option Chomping
  | '+' => some .keep
  | '-' => some .strip
  | _ => none

def fault : Error := .malformed .badBlockHeader

def indentation? (c : Char) : Except Error (Option Nat) :=
  if c.isDigit then
    if c == '0' then .error fault else .ok (some (c.toNat - '0'.toNat))
  else .ok none

/-- The two indicators of a header, in either order. -/
def indicators (cursor : Cursor) : Except Error (Header × Cursor) :=
  match cursor.next with
  | none => .ok ({}, cursor)
  | some c =>
      match chomping? c with
      | some chomping => do
          let indentation ← (cursor.ahead 1).elim (.ok none) indentation?
          .ok (⟨chomping, indentation⟩, cursor.skip (1 + indentation.isSome.toNat))
      | none => do
          match ← indentation? c with
          | none => .ok ({}, cursor)
          | some indentation =>
              match (cursor.ahead 1).bind chomping? with
              | some chomping => .ok (⟨chomping, some indentation⟩, cursor.skip 2)
              | none => .ok (⟨.clip, some indentation⟩, cursor.step)

def header (cursor : Cursor) : Except Error (Header × Cursor) := do
  let (header, after) ← indicators cursor
  if !endsAtSpace after.next then throw fault
  let behind := after.skipSpaces.skipComment
  if !endsLine behind.next then throw fault
  return (header, behind.skipBreak)

/-- Empty lines before the first line of text, and the greatest column reached in them. -/
def leading : Nat → Nat → Cursor → List Char × Nat × Cursor
  | 0, widest, cursor => ([], widest, cursor)
  | fuel + 1, widest, cursor =>
      match cursor.next with
      | some c =>
          if c == ' ' then leading fuel (max widest cursor.step.column) cursor.step
          else if isBreak c then
            let (others, found, after) := leading fuel widest cursor.step
            (breakText c :: others, found, after)
          else ([], widest, cursor)
      | none => ([], widest, cursor)

def indentTo (indent : Nat) (cursor : Cursor) : Cursor :=
  let spaces := (cursor.rest.takeWhile (· == ' ')).length
  cursor.skip (min spaces (indent - cursor.column))

def emptyLines (indent : Nat) : Nat → Cursor → List Char × Cursor
  | 0, cursor => ([], cursor)
  | fuel + 1, cursor =>
      let behind := indentTo indent cursor
      match behind.next with
      | some c =>
          if isBreak c then
            let (others, after) := emptyLines indent fuel behind.step
            (breakText c :: others, after)
          else ([], behind)
      | none => ([], behind)

def lineGoesOn (indent : Nat) (cursor : Cursor) : Bool :=
  cursor.column == indent && cursor.next.isSome

/-- The lines from here on, with the empty lines that stood before them. -/
def lines (isFolded : Bool) (header : Header) (indent : Nat) :
    Nat → List Char → Cursor → List Char × Cursor
  | 0, _, cursor => ([], cursor)
  | fuel + 1, before, cursor =>
      let (line, atBreak) := cursor.span fun c => !isBreak c
      let separator := (atBreak.next.map breakText).toList
      let (empty, after) := emptyLines indent (atBreak.rest.length + 1) atBreak.skipBreak
      let startsText (cursor : Cursor) : Bool := !cursor.next.any isSpaceOrTab
      if lineGoesOn indent after then
        let joint :=
          if isFolded && separator == ['\n'] && startsText cursor && startsText after then
            if empty.isEmpty then [' '] else []
          else separator
        let (later, behind) := lines isFolded header indent fuel empty after
        (before ++ line ++ joint ++ later, behind)
      else
        let tail :=
          match header.chomping with
          | .clip => separator
          | .strip => []
          | .keep => separator ++ empty
        (before ++ line ++ tail, after)

/-- The block scalar whose indicator stands here, inside something indented this far. -/
def read (isFolded : Bool) (outer : Int) (cursor : Cursor) :
    Except Error (List Char × Cursor) := do
  let (header, start) ← header cursor.step
  let least := (max 1 (outer + 1)).toNat
  let fuel := start.rest.length + 1
  let (indent, empty, first) :=
    match header.indentation with
    | some indentation =>
        let indent := least + indentation - 1
        let (empty, first) := emptyLines indent fuel start
        (indent, empty, first)
    | none =>
        let (empty, widest, first) := leading fuel 0 start
        (max least widest, empty, first)
  if lineGoesOn indent first then return lines isFolded header indent fuel empty first
  else if header.chomping = .keep then return (empty, first)
  else return ([], first)

end Reattempt.Yaml.BlockScalar
