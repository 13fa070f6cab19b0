import Reattempt.Value.Equality
/-!
# Mappings

A mapping keeps its entries in the order in which their keys were first put. Keys that are the same
object or equal are one key. One mapping can be laid over another: its values win, except that two
mappings under the same key are laid over each other in turn.
-/
set_option autoImplicit false

namespace Reattempt

abbrev Mapping := List (Value × Value)

namespace Mapping

variable [Objects]

def get? : Mapping → Value → Option Value
  | [], _ => none
  | (key, value) :: entries, wanted =>
      if key.isSame wanted then some value else get? entries wanted

/-- The mapping with a value put under a key; a key that was there keeps its place. -/
def put : Mapping → Value → Value → Mapping
  | [], key, value => [(key, value)]
  | (other, old) :: entries, key, value =>
      if other.isSame key then (other, value) :: entries
      else (other, old) :: put entries key value

def erase (entries : Mapping) (key : Value) : Mapping :=
  entries.filter fun entry => !entry.1.isSame key

end Mapping

namespace Value

variable [Objects]

mutual
/-- What a key is worth after laying a value over what was there. -/
def overlaid : Value → Option Value → Value
  | .mapping above, some (.mapping below) => .mapping (overlaidEntries above below)
  | value, _ => value
termination_by structural above => above

def overlaidEntries : List (Value × Value) → Mapping → Mapping
  | [], below => below
  | entry :: entries, below => overlaidEntries entries (overlaidEntry entry below)
termination_by structural above => above

def overlaidEntry : Value × Value → Mapping → Mapping
  | (key, value), below => below.put key (overlaid value (below.get? key))
termination_by structural entry => entry
end

end Value

def Mapping.overlay [Objects] (below above : Mapping) : Mapping := Value.overlaidEntries above below

end Reattempt
