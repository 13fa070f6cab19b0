import Reattempt.Text.Loose
import Reattempt.Yaml.Cursor
/-!
# Quoted scalars

Between single quotes every character stands for itself and a doubled quote for one. Between double
quotes a backslash starts an escape. Line separators are folded in both.
-/
set_option autoImplicit false

namespace Reattempt.Yaml.QuotedScalar

def escapes : List (Char × Char) :=
  [('0', Char.ofNat 0), ('a', Char.ofNat 7), ('b', Char.ofNat 8), ('t', '\t'), ('\t', '\t'),
    ('n', '\n'), ('v', Char.ofNat 11), ('f', Char.ofNat 12), ('r', '\r'), ('e', Char.ofNat 27),
    (' ', ' '), (Text.doubleQuote, Text.doubleQuote), ('\\', '\\'), ('/', '/'),
    ('N', Char.ofNat 0x85), ('_', Char.ofNat 0xA0), ('L', Char.ofNat 0x2028),
    ('P', Char.ofNat 0x2029)]

def codeLength? : Char → Option Nat
  | 'x' => some 2
  | 'u' => some 4
  | 'U' => some 8
  | _ => none

def hexValue? (c : Char) : Option Nat :=
  if c.isDigit then some (c.toNat - '0'.toNat)
  else if 'a' ≤ c ∧ c ≤ 'f' then some (c.toNat - 'a'.toNat + 10)
  else if 'A' ≤ c ∧ c ≤ 'F' then some (c.toNat - 'A'.toNat + 10)
  else none

def hexNumber? (digits : List Char) : Option Nat :=
  digits.foldl (fun total c => total.bind fun total =>
    (hexValue? c).map fun digit => total * 16 + digit) (some 0)

/-- A code point, which may be half of a pair of surrogates. -/
def checkedCode (code : Nat) : Except Error Nat :=
  if Nat.pow 2 31 ≤ code then
    .error (.raised (Failure.ofRangeError .word))
  else if 0x110000 ≤ code then
    .error (.raised (.valueError "chr() arg not in range(0x110000)"))
  else .ok code

def breaks : Nat → Cursor → Except Error (List Char × Cursor)
  | 0, cursor => .ok ([], cursor)
  | fuel + 1, cursor =>
      if cursor.atDocumentMark then .error (.malformed .unclosedQuote)
      else
        let behind := cursor.skipWhile isSpaceOrTab
        match behind.next with
        | some c =>
            if isBreak c then
              (breaks fuel behind.step).map fun (others, after) => (breakText c :: others, after)
            else .ok ([], behind)
        | none => .ok ([], behind)

/-- Blanks, or line separators with blanks around them, folded. -/
def blanks (cursor : Cursor) : Except Error (List Char × Cursor) :=
  let (spaces, after) := cursor.span isSpaceOrTab
  match after.next with
  | some c =>
      if isBreak c then
        (breaks (after.rest.length + 1) after.step).map fun (others, behind) =>
          (folded (breakText c :: others), behind)
      else .ok (spaces, after)
  | none => .error (.malformed .unclosedQuote)

def codesOf (part : List Char × Cursor) : List Nat × Cursor := (part.1.map Char.toNat, part.2)

def escape (cursor : Cursor) : Except Error (List Nat × Cursor) :=
  match cursor.next with
  | none => .error (.malformed .badEscape)
  | some c =>
      match escapes.lookup c, codeLength? c with
      | some stands, _ => .ok ([stands.toNat], cursor.step)
      | none, some length =>
          let digits := (cursor.rest.drop 1).take length
          match if digits.length = length then hexNumber? digits else none with
          | some code => (checkedCode code).map fun code => ([code], cursor.skip (length + 1))
          | none => .error (.malformed .badEscape)
      | none, none =>
          if isBreak c then (breaks (cursor.rest.length + 1) cursor.step).map codesOf
          else .error (.malformed .badEscape)

def readFrom (quote : Char) : Nat → Cursor → Except Error (List Nat × Cursor)
  | 0, _ => .error (.malformed .unclosedQuote)
  | fuel + 1, cursor =>
      let more (part : List Nat × Cursor) : Except Error (List Nat × Cursor) :=
        (readFrom quote fuel part.2).map fun (codes, after) => (part.1 ++ codes, after)
      match cursor.next with
      | none => .error (.malformed .unclosedQuote)
      | some c =>
          if c == quote then
            if quote == Text.singleQuote && cursor.ahead 1 == some quote then
              more ([quote.toNat], cursor.skip 2)
            else .ok ([], cursor.step)
          else if isSpaceOrTab c || isBreak c then ((blanks cursor).map codesOf).bind more
          else if c == '\\' && quote != Text.singleQuote then (escape cursor.step).bind more
          else more ([c.toNat], cursor.step)

def read (quote : Char) (cursor : Cursor) : Except Error (LooseText × Cursor) :=
  (readFrom quote cursor.rest.length cursor.step).map fun (codes, after) =>
    (.ofCodes codes, after)

end Reattempt.Yaml.QuotedScalar
