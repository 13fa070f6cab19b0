import Reattempt.Value
/-!
# Subjects of predicates

A predicate is asked about a whole outcome, about a result alone or about a failure alone.
-/
set_option autoImplicit false

namespace Reattempt

inductive Subject where
  /-- The result of an attempt, and the failure if it raised one. -/
  | outcome (result : Value) (failure : Option Failure)
  | result (result : Value)
  | failure (failure : Failure)

namespace Subject

def resultOrNull : Subject → Value
  | .outcome value _ => value
  | .result value => value
  | .failure _ => .null

def failure? : Subject → Option Failure
  | .outcome _ raised => raised
  | .result _ => none
  | .failure raised => some raised

end Subject
end Reattempt
