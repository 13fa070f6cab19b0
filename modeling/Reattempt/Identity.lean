/-!
# Identity of what can be called

Things that can be called are the same only if they are one and the same thing. What they do does
not count.
-/
set_option autoImplicit false

namespace Reattempt

/-- A class is known by its path, everything else by a tag of its own. -/
inductive Identity where
  | own (tag : Nat)
  | className (path : String)
deriving DecidableEq

end Reattempt
