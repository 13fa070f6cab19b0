import Reattempt.Identity
import Reattempt.Value
/-!
# Events and their handlers

An event tells a handler about one attempt: after a failure, before a retry, when a retry is
scheduled, or when the run is over. Handlers observe; what they answer is whether they raised.
-/
set_option autoImplicit false

namespace Reattempt

structure AttemptFacts where
  result : Value
  failure : Option Failure
  attemptNumber : Int
  elapsed : Duration

inductive Event where
  | attempted (facts : AttemptFacts)
  | scheduled (facts : AttemptFacts) (delay : Duration)
  | completed (facts : AttemptFacts)

def Event.facts : Event → AttemptFacts
  | .attempted facts => facts
  | .scheduled facts _ => facts
  | .completed facts => facts

/-- The label names a handler in traces. -/
structure Handler where
  identity : Identity
  label : String
  raises : Event → Option Raised

inductive Occasion where
  | failedAttempt
  | retry
  | retryScheduled
  | retriesExceeded
  | abort
deriving DecidableEq

structure Handlers where
  failedAttempt : Option Handler := none
  retry : Option Handler := none
  retryScheduled : Option Handler := none
  retriesExceeded : Option Handler := none
  abort : Option Handler := none

namespace Handlers

def get (handlers : Handlers) : Occasion → Option Handler
  | .failedAttempt => handlers.failedAttempt
  | .retry => handlers.retry
  | .retryScheduled => handlers.retryScheduled
  | .retriesExceeded => handlers.retriesExceeded
  | .abort => handlers.abort

def set (handlers : Handlers) (handler : Option Handler) : Occasion → Handlers
  | .failedAttempt => { handlers with failedAttempt := handler }
  | .retry => { handlers with retry := handler }
  | .retryScheduled => { handlers with retryScheduled := handler }
  | .retriesExceeded => { handlers with retriesExceeded := handler }
  | .abort => { handlers with abort := handler }

/-- The handlers in the order failed attempt, retry, retry scheduled, retries exceeded, abort. -/
def toList (handlers : Handlers) : List (Option Handler) :=
  [handlers.failedAttempt, handlers.retry, handlers.retryScheduled, handlers.retriesExceeded,
    handlers.abort]

end Handlers
end Reattempt
