import Reattempt.Yaml.Node.Entries
import Reattempt.Yaml.Scalar.Meaning
/-!
# Faults in nodes

The nodes of a document are looked at level by level. A scalar is read when its turn comes; a
collection is gone through later, behind all nodes found so far. The first fault met in this order
is the fault of the document. Every node is looked at once, however often it is met.
-/
set_option autoImplicit false

namespace Reattempt.Yaml

def Tag.isCollection (tag : Tag) : Bool := [Tag.sequence, .mapping, .set, .pairs].contains tag

def Tag.isUnknown : Tag → Bool
  | .merge => true
  | .value => true
  | .foreign _ => true
  | _ => false

namespace Document

/-- The text of a scalar, or of the entry of a mapping that stands for its value. -/
def scalarText (document : Document) : Nat → NodeId → Except Error LooseText
  | 0, _ => .error (.raised endless)
  | fuel + 1, id =>
      match document.node id with
      | .scalar _ text => .ok text
      | .sequence _ _ => .error (.malformed .wrongKind)
      | .mapping _ entries =>
          match entries.find? fun entry => (document.node entry.1).tag = .value with
          | some entry => document.scalarText fuel entry.2
          | none => .error (.malformed .wrongKind)

def noDateText : Failure := .typeError "expected string or bytes-like object, got 'list'"

/-- The value that a node has at once under a tag; nothing for a collection, which is gone through
later. -/
def atOnce (document : Document) (tag : Tag) (id : NodeId) : Except Error (Option Value) :=
  if tag.isCollection then .ok none
  else if tag.isUnknown then .error (.malformed .unknownTag)
  else
    match document.node id, document.scalarText document.depth id with
    | .scalar _ text, _ => (Scalar.valueOf tag text).map some
    | .sequence _ _, _ => .error (.malformed .wrongKind)
    | .mapping _ _, .error error => .error error
    | .mapping _ _, .ok text =>
        if tag = .timestamp then .error (.raised noDateText)
        else (Scalar.valueOf tag text).map some

inductive Step where
  /-- Look at a node under a tag. -/
  | visit (tag : Tag) (id : NodeId)
  /-- Demand that the value of a node can be a key. -/
  | demandKey (tag : Tag) (id : NodeId)
  | fail (error : Error)

def visit (document : Document) (id : NodeId) : Step := .visit (document.node id).tag id

def entrySteps (document : Document) (entry : NodeId × NodeId) : List Step :=
  let tag := document.keyTag entry.1
  [.visit tag entry.1, .demandKey tag entry.1, document.visit entry.2]

def pairSteps (document : Document) (id : NodeId) : List Step :=
  match document.node id with
  | .mapping _ [entry] => [document.visit entry.1, document.visit entry.2]
  | _ => [.fail (.malformed .wrongKind)]

def steps (document : Document) (id : NodeId) : List Step :=
  let node := document.node id
  match node.tag, node with
  | .sequence, .sequence _ items => items.map document.visit
  | .pairs, .sequence _ items => items.flatMap document.pairSteps
  | .sequence, _ => [.fail (.malformed .wrongKind)]
  | .pairs, _ => [.fail (.malformed .wrongKind)]
  | _, .mapping _ _ =>
      match document.entries id with
      | .ok entries => entries.flatMap document.entrySteps
      | .error error => [.fail error]
  | _, _ => [.fail (.malformed .wrongKind)]

/-- Which nodes were looked at, and those to be gone through next, the last of them first. -/
structure Survey where
  seen : Array Bool
  waiting : List NodeId := []

namespace Survey

def look (document : Document) (survey : Survey) (tag : Tag) (id : NodeId) :
    Except Error Survey :=
  if survey.seen[id]?.getD true then .ok survey
  else do
    let value ← document.atOnce tag id
    let seen := survey.seen.setIfInBounds id true
    return ⟨seen, if value.isNone then id :: survey.waiting else survey.waiting⟩

def step (document : Document) (survey : Survey) : Step → Except Error Survey
  | .visit tag id => survey.look document tag id
  | .demandKey tag id => do
      let value ← document.atOnce tag id
      if value.any Value.isHashable then return survey else throw (.malformed .badKey)
  | .fail error => .error error

/-- Goes through the collections that wait, and through those found on the way, as many levels
deep as there are nodes. -/
def run (document : Document) : Nat → Survey → Except Error Unit
  | 0, _ => .ok ()
  | levels + 1, survey =>
      if survey.waiting.isEmpty then .ok ()
      else do
        let steps := survey.waiting.reverse.flatMap document.steps
        run document levels (← steps.foldlM (Survey.step document) { survey with waiting := [] })

end Survey

def check (document : Document) : Except Error Unit := do
  let start : Survey := { seen := Array.replicate document.size false }
  let survey ← start.look document (document.node document.root).tag document.root
  survey.run document (document.size + 1)

end Document
end Reattempt.Yaml
