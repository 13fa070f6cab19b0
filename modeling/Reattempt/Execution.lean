import Reattempt.Decision
/-!
# Running an operation under a policy

A run makes attempts, turn by turn, until a verdict ends it, and then ends as the last attempt did.
An attempt can ask for another one itself; there is no verdict on it then, and the wait is that of
the last verdict again. Elapsed time is measured on a clock from its first reading and is never
negative. A run may sleep a given number of times; the next sleep is refused and stops it.
-/
set_option autoImplicit false

namespace Reattempt

/-- A clock can be read, which may change it, and attempts and sleeps make time pass on it. -/
class Clock (κ : Type) where
  read : κ → Binary64 × κ
  pass : κ → Binary64 → κ

instance : Clock Binary64 where
  read now := (now, now)
  pass now seconds := now + seconds

/-- How one call of an operation goes: the time it takes, and what it returns or raises. -/
structure Attempt where
  takes : Binary64
  outcome : Except Failure Value

/-- An operation answers to its arguments and to how often it was called before. -/
abbrev Operation := Arguments → Nat → Attempt

/-- What a run is given besides its operation. Without a classifier, an ordinary failure that is
raised counts as a failure and nothing else does. -/
structure RunSetup where
  policy : Policy
  power : Power
  classifier : Option Predicate := none
  operation : Operation
  arguments : Arguments := {}
  /-- What asking the engine for a verdict raises if it is no engine. -/
  engineFault : Option Failure := none
  /-- What the sleep after the last one allowed raises. -/
  sleepRefusal : Failure

structure Progress (ρ κ : Type) where
  attempts : Nat := 0
  clock : κ
  history : History := {}
  /-- The delay of the last verdict. -/
  delay : Duration := .zero
  source : ρ

inductive Stage where
  | handover
  | note
  | announcement
  | classification
  | measurement
  | evaluation
  | summation
deriving DecidableEq

/-- Why a run makes no further attempt: a verdict settled it, something raised, or a sleep was
refused. -/
inductive Ending where
  | settled
  | disturbed (stage : Stage)
  | refused
deriving DecidableEq

structure Turn (ρ κ : Type) where
  actions : List Action
  progress : Progress ρ κ
  ended : Option (Ending × Except Failure Value)

structure Execution (ρ κ : Type) where
  outcome : Except Failure Value
  ending : Ending
  actions : List Action
  progress : Progress ρ κ

namespace Execution

variable {ρ κ : Type}

def after (actions : List Action) (execution : Execution ρ κ) : Execution ρ κ :=
  { execution with actions := actions ++ execution.actions }

end Execution

def resultOf : Except Failure Value → Value
  | .ok result => result
  | .error _ => .null

def failureOf : Except Failure Value → Option Failure
  | .ok _ => none
  | .error failure => some failure

namespace RunSetup

variable {ρ κ : Type} [RandomSource ρ] [Clock κ]

def classify (setup : RunSetup) (outcome : Except Failure Value) :
    Except Failure Bool × List Action :=
  match setup.classifier with
  | some predicate =>
      let subject := Subject.outcome (resultOf outcome) (failureOf outcome)
      ((predicate.judge subject).mapError Raised.failure, [Action.asked ⟨predicate, subject⟩])
  | none => (.ok ((failureOf outcome).any Failure.isOrdinary), [])

def elapsedBetween (started now : Binary64) : Except Duration.RangeError Duration :=
  Duration.ofSeconds (Binary64.larger (now - started) .zero)

def evaluate (setup : RunSetup) (history : History) (outcome : Outcome) (source : ρ) :
    Decision ρ :=
  match setup.engineFault with
  | none => setup.policy.evaluate setup.power history outcome source
  | some raised => ⟨.error raised, source, []⟩

def judge (setup : RunSetup) (started : Binary64) (progress : Progress ρ κ)
    (outcome : Except Failure Value) :
    Except (Stage × Failure) Verdict × Progress ρ κ × List Action :=
  let (answer, asked) := setup.classify outcome
  match answer with
  | .error raised => (.error (.classification, raised), progress, asked)
  | .ok isFailure =>
      let (now, clock) := Clock.read progress.clock
      match elapsedBetween started now with
      | .error error =>
          (.error (.measurement, Failure.ofRangeError error), { progress with clock := clock },
            asked)
      | .ok elapsed =>
          let classified : Outcome := ⟨resultOf outcome, failureOf outcome, isFailure⟩
          let history := progress.history.record classified elapsed
          let decision := setup.evaluate history classified progress.source
          let progress := { progress with
            clock := clock
            history := history
            source := decision.source }
          let shown := asked ++ decision.actions
          match decision.verdict with
          | .error raised => (.error (.evaluation, raised), progress, shown)
          | .ok verdict => (.ok verdict, progress, shown ++ [Action.judged verdict history])

/-- Notes the number of every attempt but the first and announces the retry. -/
def beforeAttempt (setup : RunSetup) (progress : Progress ρ κ) :
    Except (Stage × Failure) Unit × List Action :=
  if progress.attempts = 0 then (.ok (), [])
  else if Decimal.isWritable (progress.attempts + 1 : Nat) then
    let (answer, announced) := setup.policy.handlers.fire .retry
      (.attempted (progress.history.facts progress.history.lastResult
        progress.history.lastFailure))
    (answer.mapError fun raised => (.announcement, raised), announced)
  else (.error (.note, Failure.ofRangeError .digits), [])

def nextAttempt (setup : RunSetup) (progress : Progress ρ κ) : Attempt :=
  setup.operation setup.arguments progress.attempts

def attempted (setup : RunSetup) (progress : Progress ρ κ) : Progress ρ κ :=
  { progress with
    attempts := progress.attempts + 1
    clock := Clock.pass progress.clock (setup.nextAttempt progress).takes }

def pause (delay : Duration) (progress : Progress ρ κ) : Turn ρ κ :=
  match progress.history.recordDelay delay with
  | .error error =>
      ⟨[], progress, some (.disturbed .summation, .error (Failure.ofRangeError error))⟩
  | .ok waited =>
      let progress := { progress with
        clock := Clock.pass progress.clock delay.toSeconds
        history := waited
        delay := delay }
      ⟨[Action.slept delay.toSeconds], progress, none⟩

def wait (verdict : Verdict) (outcome : Except Failure Value) (progress : Progress ρ κ) :
    Turn ρ κ :=
  match verdict with
  | .retry delay => pause delay progress
  | _ => ⟨[], progress, some (.settled, outcome)⟩

/-- The class of failures by which an attempt asks for another one. -/
def tryAgain : ErrorClass := ⟨"tenacity.TryAgain", ["Exception", "BaseException"]⟩

def asksAgain (outcome : Except Failure Value) : Bool :=
  (failureOf outcome).any fun failure => failure.isInstance tryAgain

def turn (setup : RunSetup) (started : Binary64) (progress : Progress ρ κ) : Turn ρ κ :=
  let (ready, announced) := setup.beforeAttempt progress
  match ready with
  | .error (stage, raised) => ⟨announced, progress, some (.disturbed stage, .error raised)⟩
  | .ok () =>
      let outcome := (setup.nextAttempt progress).outcome
      let attempt := Action.attempt (progress.attempts + 1) setup.arguments
      if asksAgain outcome then
        let waited := pause progress.delay (setup.attempted progress)
        { waited with actions := announced ++ attempt :: waited.actions }
      else
        let (judged, reached, shown) := setup.judge started (setup.attempted progress) outcome
        let actions := announced ++ attempt :: shown
        match judged with
        | .error (stage, raised) => ⟨actions, reached, some (.disturbed stage, .error raised)⟩
        | .ok verdict =>
            let waited := wait verdict outcome reached
            { waited with actions := actions ++ waited.actions }

/-- The part of a run that starts with an attempt, with this many sleeps still allowed. -/
def runFrom (setup : RunSetup) (started : Binary64) : Nat → Progress ρ κ → Execution ρ κ
  | sleeps, progress =>
      let turn := setup.turn started progress
      match turn.ended, sleeps with
      | some (ending, outcome), _ => ⟨outcome, ending, turn.actions, turn.progress⟩
      | none, 0 => ⟨.error setup.sleepRefusal, .refused, turn.actions, turn.progress⟩
      | none, sleeps + 1 => (setup.runFrom started sleeps turn.progress).after turn.actions

/-- A run on a clock, which is read before the first attempt. -/
def run (setup : RunSetup) (clock : κ) (sleeps : Nat) (source : ρ) : Execution ρ κ :=
  let (started, clock) := Clock.read clock
  setup.runFrom started sleeps { clock := clock, source := source }

end RunSetup
end Reattempt
