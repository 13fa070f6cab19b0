import Reattempt.Value.Mapping
import Reattempt.Yaml.Node.Reading
import Reattempt.Yaml.Node.Survey
import Reattempt.Yaml.Token.Lexer
/-!
# Values of documents

A text holds one document, whose value is made from its nodes. Of two entries with one key the later
counts. A scalar whose text does not fit its tag raises a failure; other faults make the text no
document. A collection that is inside of itself is unfolded a few times.
-/
set_option autoImplicit false

namespace Reattempt.Yaml

namespace Document

structure Key where
  id : NodeId
  value : Value
  isNoNumber : Bool

/-- Whether two keys are one: they are equal, or the same node, or both are the value that is
written as not being a number. -/
def Key.isSame (a b : Key) : Bool :=
  a.id == b.id || (a.isNoNumber && b.isNoNumber) || a.value.isSame b.value

def putKey : List (Key × Value) → Key → Value → List (Key × Value)
  | [], key, value => [(key, value)]
  | (other, old) :: entries, key, value =>
      if other.isSame key then (other, value) :: entries
      else (other, old) :: putKey entries key value

def key (document : Document) (values : Array Value) (id : NodeId) : Key :=
  let isNoNumber :=
    match document.node id with
    | .scalar .float text => Scalar.isNoNumber text.codes
    | _ => false
  ⟨id, values[id]?.getD .null, isNoNumber⟩

def mappingOf (document : Document) (values : Array Value) (id : NodeId) : Mapping :=
  let entries := (document.entries id).toOption.getD []
  let put := entries.foldl
    (fun made entry => putKey made (document.key values entry.1) (values[entry.2]?.getD .null)) []
  put.map fun (key, value) => (key.value, value)

def pairOf (document : Document) (values : Array Value) (id : NodeId) : Value :=
  match document.node id with
  | .mapping _ [(key, value)] =>
      .tuple [values[key]?.getD .null, values[value]?.getD .null]
  | _ => .null

/-- The value of a node, given the values of other nodes. A set is the list of its members. -/
def valueWith (document : Document) (values : Array Value) (id : NodeId) : Value :=
  match document.keyTag id, document.node id with
  | .sequence, .sequence _ items => .list (items.map fun item => values[item]?.getD .null)
  | .pairs, .sequence _ items => .list (items.map (document.pairOf values))
  | .set, _ => .list ((document.mappingOf values id).map Prod.fst)
  | .mapping, _ => .mapping (document.mappingOf values id)
  | tag, _ => ((document.atOnce tag id).toOption.join).getD .null

/-- The values of all nodes, each made from those of the nodes in it. -/
def refine (document : Document) (values : Array Value) : Array Value :=
  document.order.foldl
    (fun values id => values.setIfInBounds id (document.valueWith values id)) values

/-- What a collection is taken for inside of itself, at the deepest place. -/
def standIn (node : Node) : Value :=
  match node.tag with
  | .sequence => .list []
  | .pairs => .list []
  | .set => .list []
  | .mapping => .mapping []
  | _ => .null

/-- How often a collection that is inside of itself is unfolded. -/
def unfoldings : Nat := 4

def value (document : Document) : Except Error Value := do
  document.check
  let values := (List.range unfoldings).foldl (fun values _ => document.refine values)
    (document.nodes.map standIn)
  return values[document.root]?.getD .null

end Document

def isAllowed (c : Char) : Bool :=
  let code := c.toNat
  c == '\t' || c == '\n' || c == '\r' || code == 0x85 ||
    decide (0x20 ≤ code ∧ code ≤ 0x7E) || decide (0xA0 ≤ code ∧ code ≤ 0xFFFD) ||
    decide (0x10000 ≤ code)

def withNewlines : List Char → List Char
  | '\r' :: '\n' :: rest => '\n' :: withNewlines rest
  | '\r' :: rest => '\n' :: withNewlines rest
  | c :: rest => c :: withNewlines rest
  | [] => []

/-- The value of the document in a text; nothing if there is no document. -/
def load (text : String) (room : Nat := standardRoom) : Except Error Value := do
  let characters := withNewlines text.toList
  if !characters.all isAllowed then throw (.malformed .unprintable)
  match ← Document.ofTokens (TokenStream.ofText characters) room with
  | none => return .null
  | some document => document.value

end Reattempt.Yaml
