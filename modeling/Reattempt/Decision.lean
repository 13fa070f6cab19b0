import Reattempt.Delay
import Reattempt.Verdict
/-!
# Deciding what follows an attempt

The failed attempt is announced first. Then an abort condition that matches ends the run, a success
ends it, an exhausted limit ends it, and otherwise a retry is scheduled after a delay. All verdicts
but a success are noted with the number of the attempt. Handlers only observe: an ordinary failure
that one raises is shown and dropped.
-/
set_option autoImplicit false

namespace Reattempt

def Handlers.fire (handlers : Handlers) (occasion : Occasion) (event : Event) :
    Except Failure Unit × List Action :=
  match handlers.get occasion with
  | none => (.ok (), [])
  | some handler =>
      let actions := [Action.fired occasion handler event]
      match handler.raises event with
      | none => (.ok (), actions)
      | some raised =>
          match raised.escaped with
          | none => (.ok (), actions)
          | some failure => (.error failure, actions)

/-- What an evaluation ends in, with the source as it leaves it and the actions on the way. -/
structure Decision (ρ : Type) where
  verdict : Except Failure Verdict
  source : ρ
  actions : List Action

namespace Decision

variable {ρ : Type}

def after (actions : List Action) (decision : Decision ρ) : Decision ρ :=
  { decision with actions := actions ++ decision.actions }

/-- Fires an event and reaches a verdict unless the handler stops the run. -/
def announce (policy : Policy) (occasion : Occasion) (event : Event) (verdict : Verdict)
    (source : ρ) : Decision ρ :=
  let (answer, actions) := policy.handlers.fire occasion event
  ⟨answer.map fun _ => verdict, source, actions⟩

/-- The decision after a note on the attempt, whose number has to be written for it. -/
def noted (history : History) (decision : Decision ρ) : Decision ρ :=
  if Decimal.isWritable history.attemptNumber then decision
  else ⟨.error (Failure.ofRangeError .digits), decision.source, []⟩

end Decision

def Settings.retriesExceeded (settings : Settings) (history : History) : Bool :=
  (settings.maxRetries != -1 && decide (settings.maxRetries + 1 ≤ history.attemptNumber)) ||
    settings.maxDuration.any fun maxDuration => decide (maxDuration ≤ history.elapsed)

def History.facts (history : History) (result : Value) (failure : Option Failure) :
    AttemptFacts :=
  ⟨result, failure, history.attemptNumber, history.elapsed⟩

namespace Policy

variable {ρ : Type} [RandomSource ρ]

/-- The verdict after the failed attempt was announced. -/
def conclude (policy : Policy) (power : Power) (history : History) (isFailure isAbortable : Bool)
    (facts : AttemptFacts) (source : ρ) : Decision ρ :=
  if isAbortable then
    (Decision.announce policy .abort (.completed facts) .abort source).noted history
  else if !isFailure then ⟨.ok .succeed, source, []⟩
  else if policy.retriesExceeded history then
    (Decision.announce policy .retriesExceeded (.completed facts) .retriesExceeded source).noted
      history
  else
    match Delay.compute power policy.toSettings history source with
    | (.error error, source) => ⟨.error (Failure.ofRangeError error), source, []⟩
    | (.ok delay, source) =>
        (Decision.announce policy .retryScheduled (.scheduled facts delay) (.retry delay)
          source).noted history

/-- The verdict on an attempt that is already classified. -/
def decide (policy : Policy) (power : Power) (history : History) (isFailure isAbortable : Bool)
    (result : Value) (failure : Option Failure) (source : ρ) : Decision ρ :=
  let facts := history.facts result failure
  let (answer, actions) :=
    if isFailure then policy.handlers.fire .failedAttempt (.attempted facts) else (.ok (), [])
  match answer with
  | .error raised => ⟨.error raised, source, actions⟩
  | .ok () => (policy.conclude power history isFailure isAbortable facts source).after actions

/-- The verdict on an outcome that the history already holds. -/
def evaluate (policy : Policy) (power : Power) (history : History) (outcome : Outcome)
    (source : ρ) : Decision ρ :=
  let (answer, asked) := policy.isAbortable outcome.result outcome.failure
  let actions := asked.map Action.asked
  match answer with
  | .error raised => ⟨.error raised, source, actions⟩
  | .ok isAbortable =>
      (policy.decide power history outcome.isFailure isAbortable outcome.result outcome.failure
        source).after actions

end Policy
end Reattempt
