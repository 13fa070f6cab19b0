import Reattempt.AbortCondition
import Reattempt.Event
/-!
# Arguments

A caller hands over values and things that can be called: predicates, abort conditions and handlers.
A class can be called too.
-/
set_option autoImplicit false

namespace Reattempt

inductive Argument where
  | value (data : Value)
  | predicate (test : Predicate)
  | condition (made : AbortCondition)
  | handler (observer : Handler)
  | several (items : List Argument)

namespace Argument

/-- An argument as plain data; nothing for what can be called. -/
def toValue : Argument → Value
  | .value data => data
  | _ => .null

def predicate? : Argument → Option Predicate
  | .predicate test => some test
  | .condition made =>
      some
        { identity := made.identity
          label := none
          judge := fun subject => made.rule.judge subject.resultOrNull subject.failure?
          unshowable := made.unshowable }
  | .handler observer =>
      some
        { identity := observer.identity
          label := none
          judge := fun _ => .error Predicate.uncallable }
  | .value (.className name) => some (.ofClass name)
  | _ => none

/-- The argument as a handler, if it can be called. What a class makes of an event is of no use to
anyone, and what it raises is an ordinary failure. -/
def handler? : Argument → Option Handler
  | .handler observer => some observer
  | .predicate test => some ⟨test.identity, "", fun _ => some Predicate.uncallable⟩
  | .condition made => some ⟨made.identity, "", fun _ => some Predicate.uncallable⟩
  | .value (.className name) => some ⟨.className name.path, "", fun _ => none⟩
  | _ => none

end Argument
end Reattempt
