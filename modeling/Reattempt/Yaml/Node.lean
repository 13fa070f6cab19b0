import Reattempt.Failure
import Reattempt.Text.Loose
import Reattempt.Yaml.Tag
/-!
# Nodes

A document is a graph of nodes: scalars with their text, sequences of nodes, and mappings, which
are pairs of nodes in the order of the document. Nodes are known by number, so that an alias is
the very node of its anchor, even inside of that node. How deep nodes can be gone into is limited by
the room for nested calls.
-/
set_option autoImplicit false

namespace Reattempt.Yaml

abbrev NodeId := Nat

inductive Node where
  | scalar (tag : Tag) (text : LooseText)
  | sequence (tag : Tag) (items : List NodeId)
  | mapping (tag : Tag) (entries : List (NodeId × NodeId))

instance : Inhabited Node := ⟨.scalar .null (.text "")⟩

def Node.tag : Node → Tag
  | .scalar tag _ => tag
  | .sequence tag _ => tag
  | .mapping tag _ => tag

/-- What is raised when there is no room for one more call. -/
def endless : Failure :=
  ⟨⟨"RecursionError", ["RuntimeError", "Exception", "BaseException"]⟩,
    some "maximum recursion depth exceeded"⟩

/-- The room that is left of a thousand calls when a document is read by the program itself. -/
def standardRoom : Nat := 960

/-- The nodes of a document by their numbers, and again in the order in which they were complete: a
node comes behind everything in it, itself apart. -/
structure Document where
  nodes : Array Node
  order : Array NodeId
  root : NodeId
  room : Nat

namespace Document

def node (document : Document) (id : NodeId) : Node := document.nodes[id]?.getD default

def size (document : Document) : Nat := document.nodes.size

/-- How many nodes can be gone through, each inside of the one before. A way through more nodes than
there are goes in a circle. -/
def depth (document : Document) : Nat := min (document.size + 1) document.room

/-- The same document with a value tag of a node taken for one of text, as a key has it. -/
def keyTag (document : Document) (id : NodeId) : Tag :=
  let tag := (document.node id).tag
  if tag = .value then .text else tag

end Document
end Reattempt.Yaml
