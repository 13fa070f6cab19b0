import Reattempt.Value
/-!
# Outcomes and the history of a run

An outcome is what an attempt returned or raised and whether that counts as a failure. The history
keeps the last one, the number of attempts, the time since the start and the delays so far.
-/
set_option autoImplicit false

namespace Reattempt

structure Outcome where
  result : Value := .null
  failure : Option Failure := none
  isFailure : Bool := false

def Outcome.succeeded (result : Value) : Outcome := { result := result }

def Outcome.failed (failure : Option Failure) (result : Value) : Outcome :=
  { result := result, failure := failure, isFailure := true }

structure History where
  attemptNumber : Int := 0
  elapsed : Duration := .zero
  lastResult : Value := .null
  lastFailure : Option Failure := none
  totalDelay : Duration := .zero

namespace History

def record (history : History) (outcome : Outcome) (elapsed : Duration) : History :=
  { history with
    attemptNumber := history.attemptNumber + 1
    elapsed := elapsed
    lastResult := outcome.result
    lastFailure := outcome.failure }

def recordDelay (history : History) (delay : Duration) :
    Except Duration.RangeError History :=
  (history.totalDelay.add delay).map fun total => { history with totalDelay := total }

end History
end Reattempt
