import Reattempt.Builder
import Reattempt.ErrorName
/-!
# The retry section of a policy file

A section holds the settings as a file gives them: limits, one way to delay, jitter, and the names
of error classes that end a run. It becomes the settings of a policy by a series of changes.
-/
set_option autoImplicit false

namespace Reattempt

structure DelayRange where
  min : Duration
  max : Duration
deriving DecidableEq

structure Backoff where
  delay : Duration
  maxDelay : Duration
  factor : Binary64 := Binary64.ofInt 2

structure RetrySection where
  maxRetries : Option Int := none
  maxAttempts : Option Int := none
  maxDuration : Option Duration := none
  delay : Option Duration := none
  delayRange : Option DelayRange := none
  backoff : Option Backoff := none
  jitter : Option Duration := none
  jitterFactor : Option Binary64 := none
  abortOn : List String := []

inductive SectionError where
  | change (error : ChangeError)
  | name (fault : ErrorName.Fault)
  | policy (problems : List Problem)
  | note (error : Duration.RangeError)
deriving DecidableEq

namespace RetrySection

def delayModes (retry : RetrySection) : Nat :=
  retry.delay.isSome.toNat + retry.delayRange.isSome.toNat + retry.backoff.isSome.toNat

def conflict? (retry : RetrySection) : Option Conflict :=
  if retry.maxRetries.isSome && retry.maxAttempts.isSome then some .retriesAndAttempts
  else if 1 < retry.delayModes then some .severalDelayModes
  else none

def delayChange? (retry : RetrySection) : Option Change :=
  match retry.delay, retry.delayRange, retry.backoff with
  | some delay, _, _ => some (.delay (.duration delay))
  | none, some range, _ => some (.delayRange (.duration range.min) (.duration range.max))
  | none, none, some backoff =>
      some (.backoff (.duration backoff.delay) (.duration backoff.maxDelay)
        (.float backoff.factor))
  | none, none, none => none

/-- The changes that the section asks for, in order, apart from its names. -/
def changes (retry : RetrySection) : List Change :=
  retry.delayChange?.toList ++
    (retry.jitter.map fun jitter => Change.jitter (.duration jitter)).toList ++
    (retry.jitterFactor.map fun factor => Change.jitterFactor (.float factor)).toList ++
    (retry.maxDuration.map fun duration => Change.maxDuration (.duration duration)).toList ++
    (retry.maxRetries.map fun retries => Change.maxRetries (.int retries)).toList ++
    (retry.maxAttempts.map fun attempts => Change.maxAttempts (.int attempts)).toList

/-- The settings after changes, up to the first that is refused. -/
def applyChanges (tag : Nat) : List Change → Settings → Except ChangeError Settings
  | [], settings => .ok settings
  | change :: changes, settings => do
      let changed ← settings.change tag change
      applyChanges tag changes changed

/-- The settings with an abort condition for the named classes, if any are named. -/
def addNames (modules : ErrorName.Modules) (tag : Nat) (settings : Settings)
    (names : List String) : Except SectionError Settings :=
  if names.isEmpty then .ok settings
  else
    match ErrorName.resolveAll modules names with
    | .error fault => .error (.name fault)
    | .ok errorClasses =>
        .ok (settings.addRule tag (.failureTypes errorClasses))

/-- The settings of the section, open to further changes. Its abort condition gets the tag. -/
def toSettings (retry : RetrySection) (tag : Nat) (modules : ErrorName.Modules := .standard) :
    Except SectionError Settings :=
  match applyChanges tag retry.changes {} with
  | .error error => .error (.change error)
  | .ok settings => addNames modules tag settings retry.abortOn

def toPolicy (retry : RetrySection) (tag : Nat) (modules : ErrorName.Modules := .standard) :
    Except SectionError Policy := do
  let settings ← retry.toSettings tag modules
  match settings.buildAndNote with
  | .ok (.ok policy) => .ok policy
  | .ok (.error problems) => .error (.policy problems)
  | .error error => .error (.note error)

end RetrySection
end Reattempt
