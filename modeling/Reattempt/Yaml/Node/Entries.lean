import Reattempt.Yaml.Cursor
import Reattempt.Yaml.Node
/-!
# Entries of mappings

A mapping may be merged with another one or with a sequence of them. The merged entries come
before its own and give way to them; of a sequence the last mapping comes first.
-/
set_option autoImplicit false

namespace Reattempt.Yaml.Document

/-- The entries of a mapping inside of others that are merged with it. One of those adds no more
than its own entries again. -/
def entriesWithin (document : Document) :
    Nat → List NodeId → NodeId → Except Error (List (NodeId × NodeId))
  | 0, _, _ => .error (.raised endless)
  | fuel + 1, outer, id =>
      match document.node id with
      | .mapping _ entries => do
          let isMerge (entry : NodeId × NodeId) : Bool :=
            decide ((document.node entry.1).tag = .merge)
          let own := entries.filter fun entry => !isMerge entry
          if outer.contains id then return own
          else
            let inner := entriesWithin document fuel (id :: outer)
            let merged ← (entries.filter isMerge).mapM fun entry =>
              match document.node entry.2 with
              | .mapping _ _ => inner entry.2
              | .sequence _ items => do return (← items.mapM inner).reverse.flatten
              | .scalar _ _ => .error (.malformed .badMerge)
            return merged.flatten ++ own
      | _ => .error (.malformed .badMerge)

def entries (document : Document) (id : NodeId) : Except Error (List (NodeId × NodeId)) :=
  document.entriesWithin document.depth [] id

end Reattempt.Yaml.Document
