import Reattempt.AbortCondition
import Reattempt.Event
import Reattempt.History
/-!
# Verdicts and actions

A verdict says what follows an attempt. Actions are what a run shows to the outside, in order: the
attempts, the predicates asked, the events fired, the verdicts reached and the sleeps between
attempts.
-/
set_option autoImplicit false

namespace Reattempt

inductive Verdict where
  | succeed
  | retry (delay : Duration)
  | abort
  | retriesExceeded
deriving DecidableEq

namespace Verdict

def name : Verdict → String
  | .succeed => "succeed"
  | .retry _ => "retry"
  | .abort => "abort"
  | .retriesExceeded => "retries_exceeded"

def delay : Verdict → Duration
  | .retry delay => delay
  | _ => .zero

def shouldRetry : Verdict → Bool
  | .retry _ => true
  | _ => false

def isComplete (verdict : Verdict) : Bool := !verdict.shouldRetry

end Verdict

structure Arguments where
  positional : List Value := []
  keywords : List (String × Value) := []

inductive Action where
  | attempt (number : Nat) (arguments : Arguments)
  | asked (asked : Asked)
  | fired (occasion : Occasion) (handler : Handler) (event : Event)
  | judged (verdict : Verdict) (history : History)
  | slept (seconds : Binary64)

end Reattempt
