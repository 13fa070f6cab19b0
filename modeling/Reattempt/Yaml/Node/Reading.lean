import Reattempt.Yaml.Node
import Reattempt.Yaml.Token
/-!
# Reading nodes

Nodes are read from the tokens of a text. An alias is the node of its anchor. A stream of tokens
holds one document at most. A fault that ended the tokens counts as soon as one more token is
looked for. Every collection is read inside of the calls that read those around it.
-/
set_option autoImplicit false

namespace Reattempt.Yaml

structure Properties where
  anchor : Option String := none
  tag : Option String := none

namespace Properties

def isOpen (properties : Properties) : Bool := properties.tag.all (· == "!")

def tagOr (properties : Properties) (standard : Tag) : Tag :=
  if properties.isOpen then standard else (properties.tag.map Tag.ofName).getD standard

/-- The tag of a scalar. Quotes make text of it, unless it is marked as open. -/
def scalarTag (properties : Properties) (text : LooseText) (isPlain : Bool) : Tag :=
  if isPlain || properties.tag.isSome then
    properties.tagOr ((text.text?.map Tag.ofText).getD .text)
  else .text

end Properties

structure Reader where
  stream : TokenStream
  room : Nat
  anchors : List (String × NodeId) := []
  handles : List (String × String) := []
  nodes : Array Node := #[]
  order : Array NodeId := #[]

abbrev Reading := StateT Reader (Except Error)

namespace Reader

variable {α : Type}

def fail (fault : Fault) : Reading α := throw (.malformed fault)

def peek : Reading (Option Token) := do
  let stream := (← get).stream
  match stream.tokens, stream.fault with
  | token :: _, _ => return some token
  | [], some error => throw error
  | [], none => return none

def advance : Reading Unit :=
  modify fun reader =>
    { reader with stream := { reader.stream with tokens := reader.stream.tokens.drop 1 } }

def nextIs (tokens : List Token) : Reading Bool := do return (← peek).any tokens.contains

def accept (token : Token) : Reading Bool := do
  if ← nextIs [token] then
    advance
    return true
  else return false

def expect (token : Token) : Reading Unit := do
  if !(← accept token) then fail .unexpectedToken

def add (node : Node) : Reading NodeId :=
  modifyGet fun reader =>
    let id := reader.nodes.size
    (id, { reader with nodes := reader.nodes.push node, order := reader.order.push id })

/-- Adds a node that is known before it is complete. -/
def reserve : Reading NodeId :=
  modifyGet fun reader =>
    (reader.nodes.size, { reader with nodes := reader.nodes.push default })

def complete (id : NodeId) (node : Node) : Reading Unit :=
  modify fun reader =>
    { reader with nodes := reader.nodes.setIfInBounds id node, order := reader.order.push id }

def empty : Reading NodeId := add (.scalar .null (.text ""))

def readAnchor? : Reading (Option String) := do
  match ← peek with
  | some (.anchor name) =>
      advance
      return some name
  | _ => return none

def fullName (name : TagName) : Reading String := do
  match name.handle with
  | none => return name.suffix
  | some handle =>
      match (← get).handles.lookup handle with
      | some start => return start ++ name.suffix
      | none => fail .unknownHandle

def readTag? : Reading (Option TagName) := do
  match ← peek with
  | some (.tag name) =>
      advance
      return some name
  | _ => return none

/-- An anchor and a tag, in either order. -/
def readProperties : Reading Properties := do
  let before ← readAnchor?
  let name ← readTag?
  let behind ← if before.isNone && name.isSome then readAnchor? else pure none
  return ⟨before <|> behind, ← name.mapM fullName⟩

def setAnchor (anchor : Option String) (id : NodeId) : Reading Unit :=
  match anchor with
  | none => pure ()
  | some name => modify fun reader => { reader with anchors := (name, id) :: reader.anchors }

def checkAnchor (anchor : Option String) : Reading Unit := do
  let known := (← get).anchors
  if anchor.any fun name => known.any fun entry => entry.1 == name then fail .repeatedAnchor

def addScalar (anchor : Option String) (tag : Tag) (text : LooseText) : Reading NodeId := do
  checkAnchor anchor
  let id ← add (.scalar tag text)
  setAnchor anchor id
  return id

/-- Reads what is in a collection, which takes two calls. -/
def deeper (read : Reading α) : Reading α := do
  let room := (← get).room
  if room < 2 then throw (.raised endless)
  modify fun reader => { reader with room := room - 2 }
  let made ← read
  modify fun reader => { reader with room := room }
  return made

/-- A collection, known by its anchor even inside. -/
def addCollection (anchor : Option String) (read : Reading Node) : Reading NodeId := do
  checkAnchor anchor
  let id ← reserve
  setAnchor anchor id
  complete id (← deeper read)
  return id

/-- Where a node stands: what else may be there besides scalars and flow collections. -/
inductive Place where
  | flow
  | block
  /-- A block, or entries of a sequence that is not indented further. -/
  | blockOrEntries
deriving DecidableEq

def afterItem : List Token := [.blockEntry, .blockEnd]

def afterEntryItem : List Token := [.blockEntry, .key, .value, .blockEnd]

def afterBlockPart : List Token := [.key, .value, .blockEnd]

mutual
def node : Nat → Place → Reading NodeId
  | 0, _ => fail .unexpectedToken
  | fuel + 1, place => do
      match ← peek with
      | some (.aliased name) =>
          advance
          match (← get).anchors.lookup name with
          | some known => return known
          | none => fail .unknownAlias
      | _ =>
          let properties ← readProperties
          content fuel place properties

def content : Nat → Place → Properties → Reading NodeId
  | 0, _, _ => fail .unexpectedToken
  | fuel + 1, place, properties => do
      let sequence (read : Reading (List NodeId)) : Reading NodeId :=
        addCollection properties.anchor do
          return .sequence (properties.tagOr .sequence) (← read)
      let mapping (read : Reading (List (NodeId × NodeId))) : Reading NodeId :=
        addCollection properties.anchor do
          return .mapping (properties.tagOr .mapping) (← read)
      match ← peek with
      | some (.scalar text isPlain) =>
          advance
          addScalar properties.anchor (properties.scalarTag text isPlain) text
      | some .flowSequenceStart =>
          advance
          sequence (flowItems fuel true)
      | some .flowMappingStart =>
          advance
          mapping (flowEntries fuel true)
      | next =>
          if next = some .blockEntry && place = .blockOrEntries then
            sequence (looseItems fuel)
          else if next = some .blockSequenceStart && place ≠ .flow then
            advance
            sequence (blockItems fuel)
          else if next = some .blockMappingStart && place ≠ .flow then
            advance
            mapping (blockEntries fuel)
          else if properties.anchor.isSome || properties.tag.isSome then
            addScalar properties.anchor (properties.tagOr .null) (.text "")
          else fail .unexpectedToken

/-- A node, or an empty one if one of these tokens comes first. -/
def nodeUnless : Nat → List Token → Place → Reading NodeId
  | 0, _, _ => fail .unexpectedToken
  | fuel + 1, ends, place => do
      if ← nextIs ends then empty else node fuel place

/-- A node behind a token, or an empty one if that token is missing. -/
def nodeAfter : Nat → Token → List Token → Place → Reading NodeId
  | 0, _, _, _ => fail .unexpectedToken
  | fuel + 1, token, ends, place => do
      if ← accept token then nodeUnless fuel ends place else empty

def blockItems : Nat → Reading (List NodeId)
  | 0 => fail .unexpectedToken
  | fuel + 1 => do
      if ← accept .blockEntry then
        let item ← nodeUnless fuel afterItem .block
        return item :: (← blockItems fuel)
      else
        expect .blockEnd
        return []

/-- The items of a sequence without an indentation of its own. -/
def looseItems : Nat → Reading (List NodeId)
  | 0 => fail .unexpectedToken
  | fuel + 1 => do
      if ← accept .blockEntry then
        let item ← nodeUnless fuel afterEntryItem .block
        return item :: (← looseItems fuel)
      else return []

def blockEntries : Nat → Reading (List (NodeId × NodeId))
  | 0 => fail .unexpectedToken
  | fuel + 1 => do
      if ← accept .key then
        let key ← nodeUnless fuel afterBlockPart .blockOrEntries
        let value ← nodeAfter fuel .value afterBlockPart .blockOrEntries
        return (key, value) :: (← blockEntries fuel)
      else
        expect .blockEnd
        return []

def flowItems : Nat → Bool → Reading (List NodeId)
  | 0, _ => fail .unexpectedToken
  | fuel + 1, isFirst => do
      if ← accept .flowSequenceEnd then return []
      if !isFirst then expect .flowEntry
      if ← accept .flowSequenceEnd then return []
      if ← accept .key then
        let entry ← deeper do
          let key ← nodeUnless fuel [.value, .flowEntry, .flowSequenceEnd] .flow
          let value ← nodeAfter fuel .value [.flowEntry, .flowSequenceEnd] .flow
          return (key, value)
        let item ← add (.mapping .mapping [entry])
        return item :: (← flowItems fuel false)
      else
        let item ← node fuel .flow
        return item :: (← flowItems fuel false)

def flowEntries : Nat → Bool → Reading (List (NodeId × NodeId))
  | 0, _ => fail .unexpectedToken
  | fuel + 1, isFirst => do
      if ← accept .flowMappingEnd then return []
      if !isFirst then expect .flowEntry
      if ← accept .flowMappingEnd then return []
      if ← accept .key then
        let key ← nodeUnless fuel [.value, .flowEntry, .flowMappingEnd] .flow
        let value ← nodeAfter fuel .value [.flowEntry, .flowMappingEnd] .flow
        return (key, value) :: (← flowEntries fuel false)
      else
        let key ← node fuel .flow
        let value ← empty
        return (key, value) :: (← flowEntries fuel false)
end

/-- The directives in front of a document. Only the first major version is known. -/
def directives : Nat → Bool → List (String × String) → Reading (List (String × String))
  | 0, _, _ => fail .unexpectedToken
  | fuel + 1, hasVersion, handles => do
      match ← peek with
      | some (.directive said) =>
          advance
          match said with
          | .version major =>
              if hasVersion || major != 1 then fail .badDirective
              directives fuel true handles
          | .handle name start =>
              if handles.any fun entry => entry.1 == name then fail .badDirective
              directives fuel hasVersion ((name, start) :: handles)
          | .unknown => directives fuel hasVersion handles
      | _ => return handles

def standardHandles : List (String × String) := [("!", "!"), ("!!", Tag.standardStart)]

def skipEnds : Nat → Reading Unit
  | 0 => pure ()
  | fuel + 1 => do
      if ← accept .documentEnd then skipEnds fuel

def document (fuel : Nat) : Reading (Option NodeId) := do
  let first ← peek
  let startsAtOnce := first.any fun token =>
    match token with
    | .directive _ => false
    | .documentStart => false
    | _ => true
  let root ←
    if startsAtOnce then
      modify fun reader => { reader with handles := standardHandles }
      some <$> node fuel .block
    else if first.isNone then pure none
    else do
      let handles ← directives fuel false []
      expect .documentStart
      modify fun reader => { reader with handles := handles ++ standardHandles }
      let isEmpty := (← peek).all fun token =>
        match token with
        | .directive _ => true
        | .documentStart => true
        | .documentEnd => true
        | _ => false
      if isEmpty then some <$> empty else some <$> node fuel .block
  skipEnds fuel
  if (← peek).isSome then
    let _ ← directives fuel false []
    expect .documentStart
    fail .severalDocuments
  return root

end Reader

def Document.ofTokens (stream : TokenStream) (room : Nat) : Except Error (Option Document) :=
  ((Reader.document (4 * stream.tokens.length + 8)).run { stream := stream, room := room }).map
    fun (root, reader) => root.map fun root => ⟨reader.nodes, reader.order, root, room⟩

end Reattempt.Yaml
