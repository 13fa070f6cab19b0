import Reattempt.Argument
import Reattempt.Field.Duration
import Reattempt.Policy
import Reattempt.Value.Display
/-!
# Building settings step by step

A change sets one thing. It is refused, and the settings stay as they are, if its arguments are
unsuitable or if it conflicts with what was set before. The checks run in a fixed order and the
first that fails gives the error.
-/
set_option autoImplicit false

namespace Reattempt

inductive ArgumentFault where
  | notDuration (name shown : String)
  | notInteger (name shown : String)
  | notNumber (name shown : String)
  | delayNotPositive
  | delayMinNotPositive
  | delayMaxNotPositive
  | boundsNotIncreasing
  | backoffDelayNotPositive
  | delayNotBelowMaxDelay
  | delayFactorNotAboveOne
  | jitterNotPositive
  | jitterFactorOutOfRange
  | negativeMaxDuration
  | tooFewRetries
  | noAttempts
  | tooFewAttempts
  | noFailureTypes
  | notErrorType (shown : String)
  | predicateNotCallable
  | handlerNotCallable
deriving DecidableEq

def ArgumentFault.message : ArgumentFault → String
  | .notDuration name shown => name ++ " must be a duration, got " ++ shown
  | .notInteger name shown => name ++ " must be an integer, got " ++ shown
  | .notNumber name shown => name ++ " must be a number, got " ++ shown
  | .delayNotPositive => "delay must be greater than 0"
  | .delayMinNotPositive => "delay_min must be greater than 0"
  | .delayMaxNotPositive => "delay_max must be greater than 0"
  | .boundsNotIncreasing => "delay_min must be less than delay_max"
  | .backoffDelayNotPositive => "The delay must be greater than 0"
  | .delayNotBelowMaxDelay => "delay must be less than the max_delay"
  | .delayFactorNotAboveOne => "delay_factor must be greater than 1"
  | .jitterNotPositive => "jitter must be > 0"
  | .jitterFactorOutOfRange => "jitter_factor must be >= 0 and <= 1"
  | .negativeMaxDuration => "max_duration must not be negative"
  | .tooFewRetries => "max_retries must be greater than or equal to -1"
  | .noAttempts => "max_attempts cannot be 0"
  | .tooFewAttempts => "max_attempts cannot be less than -1"
  | .noFailureTypes => "failure_types cannot be empty"
  | .notErrorType shown => shown ++ " is not an exception type"
  | .predicateNotCallable => "predicate must be callable"
  | .handlerNotCallable => "handler must be callable"

inductive StateConflict where
  | delayNotBelowMaxDuration
  | delayMaxNotBelowMaxDuration
  | delaySet
  | randomDelaySet
  | backoffDelaySet
  | jitterAboveDelay
  | jitterSet
  | jitterFactorSet
  | maxDurationNotAboveDelay
  | maxDurationNotAboveDelayMax
deriving DecidableEq

def StateConflict.message : StateConflict → String
  | .delayNotBelowMaxDuration => "delay must be less than the max_duration"
  | .delayMaxNotBelowMaxDuration => "delay_max must be less than the max_duration"
  | .delaySet => "Delays have already been set"
  | .randomDelaySet => "Random delays have already been set"
  | .backoffDelaySet => "Backoff delays have already been set"
  | .jitterAboveDelay => "jitter must be less than the minimum configured delay"
  | .jitterSet => "with_jitter() has already been called"
  | .jitterFactorSet => "with_jitter_factor() has already been called"
  | .maxDurationNotAboveDelay => "max_duration must be greater than the delay"
  | .maxDurationNotAboveDelayMax => "max_duration must be greater than the delay_max"

inductive ChangeError where
  | argument (fault : ArgumentFault)
  | state (conflict : StateConflict)
  | range (error : Duration.RangeError)
deriving DecidableEq

def ChangeError.message : ChangeError → String
  | .argument fault => fault.message
  | .state conflict => conflict.message
  | .range error => error.message

inductive Change where
  | delay (delay : Value)
  | delayRange (delayMin delayMax : Value)
  | backoff (delay maxDelay delayFactor : Value)
  | jitter (jitter : Value)
  | jitterFactor (jitterFactor : Value)
  | maxDuration (maxDuration : Value)
  | maxRetries (maxRetries : Value)
  | maxAttempts (maxAttempts : Value)
  | abortOn (failureTypes : List Value)
  | abortOnFailureIf (predicate : Argument)
  | abortIf (predicate : Argument)
  | abortIfResult (predicate : Argument)
  | abortWhen (result : Value) (objects : Objects := .apart)
  | handle (occasion : Occasion) (handler : Argument)

namespace Change

def demand (condition : Prop) [Decidable condition] (error : ChangeError) :
    Except ChangeError Unit :=
  if condition then .ok () else .error error

def demandArgument (condition : Prop) [Decidable condition] (fault : ArgumentFault) :
    Except ChangeError Unit :=
  demand condition (.argument fault)

def demandState (condition : Prop) [Decidable condition] (conflict : StateConflict) :
    Except ChangeError Unit :=
  demand condition (.state conflict)

def refusal (fault : String → ArgumentFault) (value : Value) : ChangeError :=
  if value.isShowable then .argument (fault value.shown) else .range .digits

/-- A duration from whatever a field takes, except nothing and truth values. -/
def readDuration (name : String) (value : Value) : Except ChangeError Duration :=
  let refused := refusal (.notDuration name) value
  match value with
  | .null => .error refused
  | .bool _ => .error refused
  | value =>
      match Field.duration value with
      | .ok duration => .ok duration
      | .error (.fault _) => .error refused
      | .error (.range error) => .error (.range error)

def readInteger (name : String) (value : Value) : Except ChangeError Int :=
  match Field.strictInteger? value with
  | some number => .ok number
  | none => .error (refusal (.notInteger name) value)

def readNumber (name : String) (value : Value) : Except ChangeError Binary64 :=
  match Field.strictNumber? value with
  | some number => .ok number
  | none => .error (refusal (.notNumber name) value)

def readErrorTypes : List Value → Except ChangeError (List ErrorClass)
  | [] => .ok []
  | .className (.error errorClass) :: rest =>
      (readErrorTypes rest).map fun errorClasses => errorClass :: errorClasses
  | value :: _ => .error (refusal .notErrorType value)

def readPredicate (argument : Argument) : Except ChangeError Predicate :=
  match argument.predicate? with
  | some predicate => .ok predicate
  | none => .error (.argument .predicateNotCallable)

def readHandler (argument : Argument) : Except ChangeError Handler :=
  match argument.handler? with
  | some handler => .ok handler
  | none => .error (.argument .handlerNotCallable)

end Change

namespace Settings

open Change

def below (duration : Duration) (limit : Option Duration) : Prop :=
  ∀ bound ∈ limit, duration < bound

instance (duration : Duration) (limit : Option Duration) : Decidable (below duration limit) :=
  match limit with
  | none => .isTrue (by simp [below])
  | some bound =>
      if smaller : duration < bound then .isTrue (by simpa [below] using smaller)
      else .isFalse (by simpa [below] using smaller)

def jitterWithin (settings : Settings) (delay : Duration) : Prop :=
  ∀ jitter ∈ settings.jitter, jitter ≤ delay

instance (settings : Settings) (delay : Duration) : Decidable (settings.jitterWithin delay) :=
  match found : settings.jitter with
  | none => .isTrue (by simp [jitterWithin, found])
  | some jitter =>
      if within : jitter ≤ delay then .isTrue (by simpa [jitterWithin, found] using within)
      else .isFalse (by simpa [jitterWithin, found] using within)

def withDelay (settings : Settings) (delay : Value) : Except ChangeError Settings := do
  let delay ← readDuration "delay" delay
  demandArgument (.zero < delay) .delayNotPositive
  demandState (below delay settings.maxDuration) .delayNotBelowMaxDuration
  demandState (settings.delayMin = none) .randomDelaySet
  demandState (settings.maxDelay = none) .backoffDelaySet
  demandState (settings.jitterWithin delay) .jitterAboveDelay
  return { settings with delay := delay }

def withDelayRange (settings : Settings) (delayMin delayMax : Value) :
    Except ChangeError Settings := do
  let delayMin ← readDuration "delay_min" delayMin
  let delayMax ← readDuration "delay_max" delayMax
  demandArgument (.zero < delayMin) .delayMinNotPositive
  demandArgument (.zero < delayMax) .delayMaxNotPositive
  demandArgument (delayMin < delayMax) .boundsNotIncreasing
  demandState (below delayMax settings.maxDuration) .delayMaxNotBelowMaxDuration
  demandState (settings.delay = .zero) .delaySet
  demandState (settings.maxDelay = none) .backoffDelaySet
  demandState (settings.jitterWithin delayMin) .jitterAboveDelay
  return { settings with delayMin := some delayMin, delayMax := some delayMax }

/-- The limit of the whole run is looked at before the other two arguments are. -/
def withBackoff (settings : Settings) (delay maxDelay delayFactor : Value) :
    Except ChangeError Settings := do
  let delay ← readDuration "delay" delay
  let maxDelay ← readDuration "max_delay" maxDelay
  let delayFactor ← readNumber "delay_factor" delayFactor
  demandArgument (.zero < delay) .backoffDelayNotPositive
  demandState (below delay settings.maxDuration) .delayNotBelowMaxDuration
  demandArgument (delay < maxDelay) .delayNotBelowMaxDelay
  demandArgument (Binary64.ofInt 1 < delayFactor) .delayFactorNotAboveOne
  demandState (settings.delay = .zero) .delaySet
  demandState (settings.delayMin = none) .randomDelaySet
  demandState (settings.jitterWithin delay) .jitterAboveDelay
  return { settings with delay := delay, maxDelay := some maxDelay, delayFactor := delayFactor }

/-- A jitter factor of zero counts as none and gives way. -/
def withJitter (settings : Settings) (jitter : Value) : Except ChangeError Settings := do
  let jitter ← readDuration "jitter" jitter
  demandArgument (.zero < jitter) .jitterNotPositive
  demandState (settings.jitterFactor.all Binary64.isZero = true) .jitterFactorSet
  demandState (jitter ≤ settings.smallestDelay) .jitterAboveDelay
  return { settings with jitterFactor := none, jitter := some jitter }

def withJitterFactor (settings : Settings) (jitterFactor : Value) :
    Except ChangeError Settings := do
  let jitterFactor ← readNumber "jitter_factor" jitterFactor
  demandArgument (Binary64.ofInt 0 ≤ jitterFactor ∧ jitterFactor ≤ Binary64.ofInt 1)
    .jitterFactorOutOfRange
  demandState (settings.jitter = none) .jitterSet
  return { settings with jitterFactor := some jitterFactor }

def withMaxDuration (settings : Settings) (maxDuration : Value) :
    Except ChangeError Settings := do
  let maxDuration ← readDuration "max_duration" maxDuration
  demandArgument (.zero ≤ maxDuration) .negativeMaxDuration
  demandState (settings.delay = .zero ∨ settings.delay < maxDuration) .maxDurationNotAboveDelay
  demandState (settings.delayMax.all (fun delayMax => decide (delayMax < maxDuration)) = true)
    .maxDurationNotAboveDelayMax
  return { settings with maxDuration := some maxDuration }

def withMaxRetries (settings : Settings) (maxRetries : Value) : Except ChangeError Settings := do
  let maxRetries ← readInteger "max_retries" maxRetries
  demandArgument (-1 ≤ maxRetries) .tooFewRetries
  return { settings with maxRetries := maxRetries }

def withMaxAttempts (settings : Settings) (maxAttempts : Value) :
    Except ChangeError Settings := do
  let maxAttempts ← readInteger "max_attempts" maxAttempts
  demandArgument (maxAttempts ≠ 0) .noAttempts
  demandArgument (-1 ≤ maxAttempts) .tooFewAttempts
  return { settings with maxRetries := if maxAttempts = -1 then -1 else maxAttempts - 1 }

def addCondition (settings : Settings) (condition : AbortCondition) : Settings :=
  { settings with abortConditions := settings.abortConditions ++ [condition] }

/-- Adds an abort condition that is made for the purpose and gets the tag. -/
def addRule (settings : Settings) (tag : Nat) (rule : AbortRule) : Settings :=
  settings.addCondition ⟨.own tag, rule⟩

def abortOn (settings : Settings) (tag : Nat) (failureTypes : List Value) :
    Except ChangeError Settings := do
  demandArgument (failureTypes.isEmpty = false) .noFailureTypes
  let errorClasses ← readErrorTypes failureTypes
  return settings.addRule tag (.failureTypes errorClasses)

/-- The settings after a change, or why it is refused. A condition that is made for the change
gets the tag. -/
def change (settings : Settings) (tag : Nat) : Change → Except ChangeError Settings
  | .delay delay => settings.withDelay delay
  | .delayRange delayMin delayMax => settings.withDelayRange delayMin delayMax
  | .backoff delay maxDelay delayFactor => settings.withBackoff delay maxDelay delayFactor
  | .jitter jitter => settings.withJitter jitter
  | .jitterFactor jitterFactor => settings.withJitterFactor jitterFactor
  | .maxDuration maxDuration => settings.withMaxDuration maxDuration
  | .maxRetries maxRetries => settings.withMaxRetries maxRetries
  | .maxAttempts maxAttempts => settings.withMaxAttempts maxAttempts
  | .abortOn failureTypes => settings.abortOn tag failureTypes
  | .abortOnFailureIf predicate =>
      (readPredicate predicate).map fun predicate =>
        settings.addRule tag (.failureIf predicate)
  | .abortIf predicate =>
      (readPredicate predicate).map fun predicate =>
        settings.addCondition (.ofPredicate predicate)
  | .abortIfResult predicate =>
      (readPredicate predicate).map fun predicate =>
        settings.addRule tag (.resultIf predicate)
  | .abortWhen result objects => .ok (settings.addRule tag (.resultEquals result objects))
  | .handle occasion handler =>
      (readHandler handler).map fun handler =>
        { settings with handlers := settings.handlers.set (some handler) occasion }

/-- The settings after a change that is ignored if it is refused. -/
def changeOrKeep (settings : Settings) (tag : Nat) (change : Change) : Settings :=
  match settings.change tag change with
  | .ok changed => changed
  | .error _ => settings

/-- The policy that the settings are frozen into, as it is before it is noted. -/
def build (settings : Settings) : Except (List Problem) Policy := Policy.ofSettings settings

/-- A policy that was made is noted with its limit on retries, which has to be written for it. -/
def note (built : Except (List Problem) Policy) :
    Except Duration.RangeError (Except (List Problem) Policy) :=
  match built with
  | .ok policy => if Decimal.isWritable policy.maxRetries then .ok (.ok policy) else .error .digits
  | .error problems => .ok (.error problems)

def buildAndNote (settings : Settings) :
    Except Duration.RangeError (Except (List Problem) Policy) :=
  note settings.build

end Settings

def policyHeader : String := "Retry policy validation failed"

def Policy.toBuilder (policy : Policy) : Settings where
  delay := policy.delay
  delayMin := policy.delayMin
  delayMax := policy.delayMax
  maxDelay := policy.maxDelay
  delayFactor := policy.delayFactor
  jitter := policy.jitter
  jitterFactor := policy.jitterFactor
  maxDuration := policy.maxDuration
  maxRetries := policy.maxRetries
  abortConditions := policy.abortConditions
  handlers :=
    { failedAttempt := policy.handlers.failedAttempt
      retry := policy.handlers.retry
      retryScheduled := policy.handlers.retryScheduled
      retriesExceeded := policy.handlers.retriesExceeded
      abort := policy.handlers.abort }

end Reattempt
