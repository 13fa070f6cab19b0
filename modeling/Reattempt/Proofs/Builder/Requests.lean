import Mathlib.Tactic
import Reattempt.Builder

/-!
# What changes ask for

A change reads its arguments before it looks at what was set before. `Change.Asks` says what the
arguments have to be, each on its own and compared with each other, and what they ask for then.
A change whose arguments ask for nothing is never accepted.
-/

set_option autoImplicit false

namespace Reattempt

inductive Request where
  | delay (delay : Duration)
  | delayRange (delayMin delayMax : Duration)
  | backoff (delay maxDelay : Duration) (delayFactor : Binary64)
  | jitter (jitter : Duration)
  | jitterFactor (jitterFactor : Binary64)
  | maxDuration (maxDuration : Duration)
  | maxRetries (maxRetries : Int)
  | condition (condition : AbortCondition)
  | handler (occasion : Occasion) (handler : Handler)

/-- The settings in which a request is met. A jitter puts an end to a jitter factor. -/
def Settings.meet (settings : Settings) : Request → Settings
  | .delay delay => { settings with delay := delay }
  | .delayRange delayMin delayMax =>
      { settings with delayMin := some delayMin, delayMax := some delayMax }
  | .backoff delay maxDelay delayFactor =>
      { settings with delay := delay, maxDelay := some maxDelay, delayFactor := delayFactor }
  | .jitter jitter => { settings with jitterFactor := none, jitter := some jitter }
  | .jitterFactor jitterFactor => { settings with jitterFactor := some jitterFactor }
  | .maxDuration maxDuration => { settings with maxDuration := some maxDuration }
  | .maxRetries maxRetries => { settings with maxRetries := maxRetries }
  | .condition condition => settings.addCondition condition
  | .handler occasion handler =>
      { settings with handlers := settings.handlers.set (some handler) occasion }

namespace Change

variable {tag : Nat}

/-- What suitable arguments of a change ask for. A condition that is made for the change gets the
tag. -/
inductive Asks (tag : Nat) : Change → Request → Prop
  | delay {value : Value} {delay : Duration} (read : readDuration "delay" value = .ok delay)
      (positive : .zero < delay) : Asks tag (.delay value) (.delay delay)
  | delayRange {low high : Value} {delayMin delayMax : Duration}
      (readMin : readDuration "delay_min" low = .ok delayMin)
      (readMax : readDuration "delay_max" high = .ok delayMax) (positiveMin : .zero < delayMin)
      (positiveMax : .zero < delayMax) (increasing : delayMin < delayMax) :
      Asks tag (.delayRange low high) (.delayRange delayMin delayMax)
  | backoff {value cap rate : Value} {delay maxDelay : Duration} {factor : Binary64}
      (readDelay : readDuration "delay" value = .ok delay)
      (readCap : readDuration "max_delay" cap = .ok maxDelay)
      (readFactor : readNumber "delay_factor" rate = .ok factor) (positive : .zero < delay)
      (increasing : delay < maxDelay) (growing : Binary64.ofInt 1 < factor) :
      Asks tag (.backoff value cap rate) (.backoff delay maxDelay factor)
  | jitter {value : Value} {jitter : Duration} (read : readDuration "jitter" value = .ok jitter)
      (positive : .zero < jitter) : Asks tag (.jitter value) (.jitter jitter)
  | jitterFactor {value : Value} {factor : Binary64}
      (read : readNumber "jitter_factor" value = .ok factor)
      (within : Binary64.ofInt 0 ≤ factor ∧ factor ≤ Binary64.ofInt 1) :
      Asks tag (.jitterFactor value) (.jitterFactor factor)
  | maxDuration {value : Value} {limit : Duration}
      (read : readDuration "max_duration" value = .ok limit) (nonnegative : .zero ≤ limit) :
      Asks tag (.maxDuration value) (.maxDuration limit)
  | maxRetries {value : Value} {retries : Int}
      (read : readInteger "max_retries" value = .ok retries) (enough : -1 ≤ retries) :
      Asks tag (.maxRetries value) (.maxRetries retries)
  | maxAttempts {value : Value} {attempts : Int}
      (read : readInteger "max_attempts" value = .ok attempts) (notZero : attempts ≠ 0)
      (enough : -1 ≤ attempts) :
      Asks tag (.maxAttempts value)
        (.maxRetries (if attempts = -1 then -1 else attempts - 1))
  | abortOn {failureTypes : List Value} {errorClasses : List ErrorClass}
      (given : failureTypes ≠ []) (read : readErrorTypes failureTypes = .ok errorClasses) :
      Asks tag (.abortOn failureTypes) (.condition ⟨.own tag, .failureTypes errorClasses⟩)
  | abortOnFailureIf {argument : Argument} {predicate : Predicate}
      (read : readPredicate argument = .ok predicate) :
      Asks tag (.abortOnFailureIf argument) (.condition ⟨.own tag, .failureIf predicate⟩)
  | abortIf {argument : Argument} {predicate : Predicate}
      (read : readPredicate argument = .ok predicate) :
      Asks tag (.abortIf argument) (.condition (.ofPredicate predicate))
  | abortIfResult {argument : Argument} {predicate : Predicate}
      (read : readPredicate argument = .ok predicate) :
      Asks tag (.abortIfResult argument) (.condition ⟨.own tag, .resultIf predicate⟩)
  | abortWhen (result : Value) (objects : Objects) :
      Asks tag (.abortWhen result objects) (.condition ⟨.own tag, .resultEquals result objects⟩)
  | handle {occasion : Occasion} {argument : Argument} {handler : Handler}
      (read : readHandler argument = .ok handler) :
      Asks tag (.handle occasion argument) (.handler occasion handler)

def Suitable (change : Change) : Prop := ∀ tag, ∃ request, change.Asks tag request

end Change
end Reattempt
