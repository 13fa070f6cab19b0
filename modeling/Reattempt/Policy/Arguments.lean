import Reattempt.Builder
import Reattempt.Field.Validation
/-!
# Policies from named arguments

A policy can be made at once from arguments named like the settings. Each is read leniently; those
not given keep their defaults; unknown names are problems too. Settings under construction can be
written out as arguments again.
-/
set_option autoImplicit false

namespace Reattempt

abbrev NamedArguments := List (String × Argument)

namespace NamedArguments

def get? (arguments : NamedArguments) (name : String) : Option Argument :=
  (arguments.find? fun entry => entry.1 == name).map Prod.snd

def replace (arguments : NamedArguments) (name : String) (argument : Argument) :
    NamedArguments :=
  if arguments.any fun entry => entry.1 == name then
    arguments.map fun entry => if entry.1 == name then (name, argument) else entry
  else arguments ++ [(name, argument)]

end NamedArguments

namespace Policy

def settingNames : List String :=
  ["delay", "delay_min", "delay_max", "max_delay", "delay_factor", "jitter", "jitter_factor",
    "max_duration", "max_retries", "abort_conditions", "on_failed_attempt", "on_retry",
    "on_retry_scheduled", "on_retries_exceeded", "on_abort"]

def readDuration : Argument → Except Field.Rejection Duration
  | .value data => Field.duration data
  | _ => .error (.fault .durationKind)

def readNumber (fault? : Binary64 → Option Fault) :
    Argument → Except Field.Rejection Binary64
  | .value data => Field.plain (Field.bounded (Field.number data) fault?)
  | _ => .error (.fault .numberKind)

def readInteger (fault? : Int → Option Fault) : Argument → Except Field.Rejection Int
  | .value data => Field.plain (Field.bounded (Field.integer data) fault?)
  | _ => .error (.fault .integerKind)

def readOptional {α : Type} (read : Argument → Except Field.Rejection α) :
    Argument → Except Field.Rejection (Option α)
  | .value .null => .ok none
  | argument => (read argument).map some

def readHandler (argument : Argument) : Except Field.Rejection Handler :=
  match argument.handler? with
  | some handler => .ok handler
  | none => .error (.fault .notCallable)

def items? : Argument → Option (List Argument)
  | .several items => some items
  | .value (.list items) => some (items.map Argument.value)
  | .value (.tuple items) => some (items.map Argument.value)
  | _ => none

def noCondition : AbortCondition := ⟨.own 0, .failureTypes []⟩

def readCondition (argument : Argument) : Except Field.Rejection AbortCondition :=
  match argument with
  | .condition made => .ok made
  | argument =>
      match argument.predicate? with
      | some predicate => .ok (.ofPredicate predicate)
      | none => .error (.fault .notCallable)

def readConditions (position : Nat) : List Argument → Validation (List AbortCondition)
  | [] => pure []
  | argument :: rest => do
      let condition ←
        Validation.settle (.index position) noCondition (readCondition argument)
      let conditions ← readConditions (position + 1) rest
      pure (condition :: conditions)

variable {α : Type}

def field (arguments : NamedArguments) (name : String) (standard : α)
    (read : Argument → Except Field.Rejection α) : Validation α :=
  match arguments.get? name with
  | none => pure standard
  | some argument => Validation.settle (.field name) standard (read argument)

def conditionsField (arguments : NamedArguments) : Validation (List AbortCondition) :=
  match arguments.get? "abort_conditions" with
  | none => pure []
  | some argument =>
      match items? argument with
      | some items =>
          Validation.inside (.field "abort_conditions") (readConditions 0 items)
      | none =>
          Validation.settle (.field "abort_conditions") [] (.error (.fault .tupleKind))

/-- The settings that arguments give, in the order of the settings, and then the unknown names. -/
def settingsOf (arguments : NamedArguments) : Validation Settings := do
  let standard : Settings := {}
  let delay ← field arguments "delay" standard.delay readDuration
  let delayMin ← field arguments "delay_min" none (readOptional readDuration)
  let delayMax ← field arguments "delay_max" none (readOptional readDuration)
  let maxDelay ← field arguments "max_delay" none (readOptional readDuration)
  let delayFactor ←
    field arguments "delay_factor" standard.delayFactor
      (readNumber Settings.delayFactorFault?)
  let jitter ← field arguments "jitter" none (readOptional readDuration)
  let jitterFactor ←
    field arguments "jitter_factor" none
      (readOptional (readNumber Settings.jitterFactorFault?))
  let maxDuration ← field arguments "max_duration" none (readOptional readDuration)
  let maxRetries ←
    field arguments "max_retries" standard.maxRetries (readInteger Settings.retriesFault?)
  let abortConditions ← conditionsField arguments
  let failedAttempt ← field arguments "on_failed_attempt" none (readOptional readHandler)
  let retry ← field arguments "on_retry" none (readOptional readHandler)
  let retryScheduled ← field arguments "on_retry_scheduled" none (readOptional readHandler)
  let retriesExceeded ← field arguments "on_retries_exceeded" none (readOptional readHandler)
  let abort ← field arguments "on_abort" none (readOptional readHandler)
  let unknown := arguments.filter fun entry => !settingNames.contains entry.1
  Validation.note (unknown.map fun entry => ⟨[.field entry.1], .unknown⟩)
  return {
    delay := delay
    delayMin := delayMin
    delayMax := delayMax
    maxDelay := maxDelay
    delayFactor := delayFactor
    jitter := jitter
    jitterFactor := jitterFactor
    maxDuration := maxDuration
    maxRetries := maxRetries
    abortConditions := abortConditions
    handlers := ⟨failedAttempt, retry, retryScheduled, retriesExceeded, abort⟩ }

def ofArguments (arguments : NamedArguments) :
    Except Duration.RangeError (Except (List Problem) Policy) :=
  (Validation.finish (settingsOf arguments)).map fun settings => settings.bind ofSettings

/-- What assigning to a setting of a finished policy comes to: policies do not change. -/
def assign (_policy : Policy) (name : String) : List Problem := [⟨[.field name], .frozen⟩]

end Policy

namespace Settings

def ofDuration : Option Duration → Argument
  | some duration => .value (.duration duration)
  | none => .value .null

def ofHandler : Option Handler → Argument
  | some handler => .handler handler
  | none => .value .null

def toArguments (settings : Settings) : NamedArguments :=
  [("delay", .value (.duration settings.delay)),
    ("delay_min", ofDuration settings.delayMin),
    ("delay_max", ofDuration settings.delayMax),
    ("max_delay", ofDuration settings.maxDelay),
    ("delay_factor", .value (.float settings.delayFactor)),
    ("jitter", ofDuration settings.jitter),
    ("jitter_factor", (settings.jitterFactor.map fun factor =>
      Argument.value (.float factor)).getD (.value .null)),
    ("max_duration", ofDuration settings.maxDuration),
    ("max_retries", .value (.int settings.maxRetries)),
    ("abort_conditions", .several (settings.abortConditions.map Argument.condition)),
    ("on_failed_attempt", ofHandler settings.handlers.failedAttempt),
    ("on_retry", ofHandler settings.handlers.retry),
    ("on_retry_scheduled", ofHandler settings.handlers.retryScheduled),
    ("on_retries_exceeded", ofHandler settings.handlers.retriesExceeded),
    ("on_abort", ofHandler settings.handlers.abort)]

/-- The policy of settings of which some are replaced by arguments that were never checked. -/
def buildWith (settings : Settings) (unchecked : NamedArguments) :
    Except Duration.RangeError (Except (List Problem) Policy) :=
  let arguments := unchecked.foldl
    (fun arguments (name, argument) => arguments.replace name argument) settings.toArguments
  (Policy.ofArguments arguments).bind note

end Settings
end Reattempt
