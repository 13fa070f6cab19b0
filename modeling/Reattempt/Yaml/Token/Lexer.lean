import Reattempt.Yaml.Scalar.Block
import Reattempt.Yaml.Scalar.Plain
import Reattempt.Yaml.Token
/-!
# The tokens of a text

Tokens are read from left to right. Whether something was a key shows only at the colon behind it,
so every token that could be a key is remembered, and the mark for the key is put in front of it
then. A key and its colon stand on one line and close together. Tokens in front of a fault are
still read, as far as they are settled.
-/
set_option autoImplicit false

namespace Reattempt.Yaml

/-- A place where a key may have started. -/
structure KeyCandidate where
  /-- How many flow collections it is inside of. -/
  depth : Nat
  /-- How many tokens stand before it. -/
  position : Nat
  /-- Whether nothing else can stand in its place. -/
  isRequired : Bool
  index : Nat
  line : Nat
  column : Nat

structure Lexer where
  cursor : Cursor
  tokens : Array Token := #[]
  /-- How many flow collections are open. -/
  depth : Nat := 0
  /-- The column of the innermost block collection, -1 outside of any. -/
  indent : Int := -1
  /-- The columns of the block collections around it. -/
  outer : List Int := []
  keyAllowed : Bool := true
  candidates : List KeyCandidate := []

abbrev Lexing := StateT Lexer (Except Error)

namespace Lexer

def fail {α : Type} (fault : Fault) : Lexing α := throw (.malformed fault)

def emit (token : Token) : Lexing Unit :=
  modify fun lexer => { lexer with tokens := lexer.tokens.push token }

def moveTo (cursor : Cursor) : Lexing Unit := modify fun lexer => { lexer with cursor := cursor }

def allowKey (allowed : Bool) : Lexing Unit :=
  modify fun lexer => { lexer with keyAllowed := allowed }

def insert (position : Nat) (token : Token) : Lexing Unit :=
  modify fun lexer =>
    { lexer with
      tokens := (lexer.tokens.extract 0 position).push token ++
        lexer.tokens.extract position lexer.tokens.size }

/-- How far a key may be from its colon. -/
def keyReach : Nat := 1024

def dropStale : Lexing Unit := do
  let lexer ← get
  let isStale (candidate : KeyCandidate) : Bool :=
    candidate.line != lexer.cursor.line ||
      decide (keyReach < lexer.cursor.index - candidate.index)
  if lexer.candidates.any fun candidate => isStale candidate && candidate.isRequired then
    fail .missingColon
  set { lexer with candidates := lexer.candidates.filter fun candidate => !isStale candidate }

def dropCandidate : Lexing Unit := do
  let lexer ← get
  let isHere (candidate : KeyCandidate) : Bool := candidate.depth == lexer.depth
  if lexer.candidates.any fun candidate => isHere candidate && candidate.isRequired then
    fail .missingColon
  set { lexer with candidates := lexer.candidates.filter fun candidate => !isHere candidate }

def saveCandidate : Lexing Unit := do
  if (← get).keyAllowed then
    dropCandidate
    modify fun lexer =>
      let cursor := lexer.cursor
      let candidate : KeyCandidate := {
        depth := lexer.depth
        position := lexer.tokens.size
        isRequired := lexer.depth == 0 && lexer.indent == cursor.column
        index := cursor.index
        line := cursor.line
        column := cursor.column }
      { lexer with candidates := candidate :: lexer.candidates }

/-- How many of the open block collections end before a column, and those that stay open. -/
def closed (column : Int) : Int → List Int → Nat × Int × List Int
  | indent, [] => (0, indent, [])
  | indent, next :: outer =>
      if column < indent then
        let (count, rest) := closed column next outer
        (count + 1, rest)
      else (0, indent, next :: outer)

def unwind (column : Int) : Lexing Unit :=
  modify fun lexer =>
    if lexer.depth = 0 then
      let (count, indent, outer) := closed column lexer.indent lexer.outer
      { lexer with
        tokens := lexer.tokens ++ Array.replicate count .blockEnd
        indent := indent
        outer := outer }
    else lexer

def indentTo (column : Nat) : Lexing Bool := do
  let lexer ← get
  if lexer.indent < column then
    set { lexer with indent := column, outer := lexer.indent :: lexer.outer }
    return true
  else return false

def skipBlanksFrom : Nat → Bool → Cursor → Bool → Cursor × Bool
  | 0, _, cursor, allowed => (cursor, allowed)
  | fuel + 1, inFlow, cursor, allowed =>
      let behind := cursor.skipSpaces.skipComment
      if behind.next.any isBreak then
        skipBlanksFrom fuel inFlow behind.step (allowed || !inFlow)
      else (behind, allowed)

/-- Skips blanks, comments and line ends. At the start of a line of a block a key may stand. -/
def skipBlanks : Lexing Unit :=
  modify fun lexer =>
    let start :=
      if lexer.cursor.index = 0 && lexer.cursor.next == some byteOrderMark then
        lexer.cursor.step
      else lexer.cursor
    let (cursor, allowed) :=
      skipBlanksFrom (start.rest.length + 1) (lexer.depth != 0) start lexer.keyAllowed
    { lexer with cursor := cursor, keyAllowed := allowed }

def punctuation (length : Nat) (token : Token) : Lexing Unit := do
  moveTo ((← get).cursor.skip length)
  emit token

def documentMark (token : Token) : Lexing Unit := do
  unwind (-1)
  dropCandidate
  allowKey false
  punctuation 3 token

def directive : Lexing Unit := do
  unwind (-1)
  dropCandidate
  allowKey false
  let (token, after) ← Token.readDirective (← get).cursor
  moveTo after
  emit token

def openFlow (token : Token) : Lexing Unit := do
  saveCandidate
  modify fun lexer => { lexer with depth := lexer.depth + 1 }
  allowKey true
  punctuation 1 token

def closeFlow (token : Token) : Lexing Unit := do
  dropCandidate
  modify fun lexer => { lexer with depth := lexer.depth - 1 }
  allowKey false
  punctuation 1 token

def flowEntry : Lexing Unit := do
  allowKey true
  dropCandidate
  punctuation 1 .flowEntry

/-- In a block, something may start a collection only where a key may start. -/
def startBlock (token : Token) (fault : Fault) : Lexing Unit := do
  let lexer ← get
  if lexer.depth = 0 then
    if !lexer.keyAllowed then fail fault
    if ← indentTo lexer.cursor.column then emit token

def blockEntry : Lexing Unit := do
  startBlock .blockSequenceStart .misplacedEntry
  allowKey true
  dropCandidate
  punctuation 1 .blockEntry

def explicitKey : Lexing Unit := do
  startBlock .blockMappingStart .misplacedKey
  allowKey ((← get).depth == 0)
  dropCandidate
  punctuation 1 .key

/-- The colon behind a key, or one without a key on its line. -/
def value : Lexing Unit := do
  let lexer ← get
  match lexer.candidates.find? fun candidate => candidate.depth == lexer.depth with
  | some candidate =>
      set { lexer with
        candidates := lexer.candidates.filter fun other => other.depth != lexer.depth
        keyAllowed := false }
      insert candidate.position .key
      if lexer.depth = 0 then
        if ← indentTo candidate.column then insert candidate.position .blockMappingStart
  | none =>
      startBlock .blockMappingStart .misplacedValue
      allowKey (lexer.depth == 0)
      dropCandidate
  punctuation 1 .value

def keyLike (read : Cursor → Except Error (Token × Cursor)) : Lexing Unit := do
  saveCandidate
  allowKey false
  let (token, after) ← read (← get).cursor
  moveTo after
  emit token

def readNamed (token : String → Token) (cursor : Cursor) : Except Error (Token × Cursor) :=
  (Token.readName cursor.step).map fun (name, after) => (token name, after)

def readQuoted (quote : Char) (cursor : Cursor) : Except Error (Token × Cursor) :=
  (QuotedScalar.read quote cursor).map fun (text, after) =>
    (.scalar text false, after)

def plain : Lexing Unit := do
  saveCandidate
  let lexer ← get
  let scalar := PlainScalar.read (lexer.depth != 0) (lexer.indent + 1).toNat lexer.cursor
  allowKey scalar.crossesLine
  moveTo scalar.cursor
  emit (.scalar (.text (String.ofList scalar.text)) true)

def block (isFolded : Bool) : Lexing Unit := do
  allowKey true
  dropCandidate
  let lexer ← get
  let (text, after) ← BlockScalar.read isFolded lexer.indent lexer.cursor
  moveTo after
  emit (.scalar (.text (String.ofList text)) false)

def token (c : Char) : Lexing Unit := do
  let lexer ← get
  let after := lexer.cursor.ahead 1
  let inFlow := lexer.depth != 0
  let standsAlone := inFlow || endsWord after
  let atMark := lexer.cursor.column == 0 && lexer.cursor.atDocumentMark
  if c == '%' && lexer.cursor.column == 0 then directive
  else if c == '-' && atMark then documentMark .documentStart
  else if c == '.' && atMark then documentMark .documentEnd
  else if c == '[' then openFlow .flowSequenceStart
  else if c == '{' then openFlow .flowMappingStart
  else if c == ']' then closeFlow .flowSequenceEnd
  else if c == '}' then closeFlow .flowMappingEnd
  else if c == ',' then flowEntry
  else if c == '-' && endsWord after then blockEntry
  else if c == '?' && standsAlone then explicitKey
  else if c == ':' && standsAlone then value
  else if c == '*' then keyLike (readNamed .aliased)
  else if c == '&' then keyLike (readNamed .anchor)
  else if c == '!' then keyLike Token.readTag
  else if c == '|' && !inFlow then block false
  else if c == '>' && !inFlow then block true
  else if c == Text.singleQuote || c == Text.doubleQuote then keyLike (readQuoted c)
  else if PlainScalar.starts inFlow c after then plain
  else fail .strayCharacter

/-- Reads on as far as the next token and answers whether there was one. -/
def advance : Lexing Bool := do
  skipBlanks
  dropStale
  let cursor := (← get).cursor
  unwind cursor.column
  match cursor.next with
  | some c =>
      token c
      dropStale
      return true
  | none =>
      unwind (-1)
      dropCandidate
      return false

/-- The tokens that are settled: those in front of every place where a key may have started. -/
def settled (lexer : Lexer) : List Token :=
  let count := (lexer.candidates.map KeyCandidate.position).foldl min lexer.tokens.size
  lexer.tokens.toList.take count

def tokensFrom : Nat → Lexer → TokenStream
  | 0, lexer => ⟨lexer.settled, some (.malformed .strayCharacter)⟩
  | fuel + 1, lexer =>
      match advance.run lexer with
      | .ok (true, next) => tokensFrom fuel next
      | .ok (false, last) => ⟨last.tokens.toList, none⟩
      | .error error => ⟨lexer.settled, some error⟩

end Lexer

def TokenStream.ofText (text : List Char) : TokenStream :=
  Lexer.tokensFrom (text.length + 1) { cursor := { rest := text } }

end Reattempt.Yaml
