import Reattempt.Settings
/-!
# Retry policies

A policy is a set of settings without problems. It is fixed: changing it starts from its settings
and ends in a new check.
-/
set_option autoImplicit false

namespace Reattempt

structure Policy extends Settings where
  sound : toSettings.problems = []

inductive DelayMode where
  | none
  | fixed
  | random
  | backoff
deriving DecidableEq

def DelayMode.name : DelayMode → String
  | .none => "none"
  | .fixed => "fixed"
  | .random => "random"
  | .backoff => "backoff"

def Settings.delayMode (settings : Settings) : DelayMode :=
  if settings.delayMin.isSome then .random
  else if settings.maxDelay.isSome then .backoff
  else if Duration.zero < settings.delay then .fixed
  else .none

/-- How many attempts are allowed, -1 for no limit. -/
def Settings.maxAttempts (settings : Settings) : Int :=
  if settings.maxRetries = -1 then -1 else settings.maxRetries + 1

def Settings.allowsRetries (settings : Settings) : Bool :=
  (settings.maxRetries == -1 || decide (0 < settings.maxRetries)) &&
    settings.maxDuration.all fun maxDuration => decide (Duration.zero < maxDuration)

namespace Policy

def ofSettings (settings : Settings) : Except (List Problem) Policy :=
  if sound : settings.problems = [] then .ok ⟨settings, sound⟩ else .error settings.problems

/-- Whether an abort condition matches an outcome, and which predicates were asked. -/
def isAbortable (policy : Policy) (result : Value) (failure : Option Failure) :
    Except Failure Bool × List Asked :=
  AbortCondition.anyMatches result failure policy.abortConditions

def handlerIdentities (policy : Policy) : List (Option Identity) :=
  policy.handlers.toList.map fun handler => handler.map Handler.identity

def sameConditions (a b : Policy) : Bool :=
  a.abortConditions.map AbortCondition.identity ==
    b.abortConditions.map AbortCondition.identity

/-- Whether two policies agree in all settings; factors compare by worth. -/
def same (a b : Policy) : Bool :=
  a.delay == b.delay && a.delayMin == b.delayMin && a.delayMax == b.delayMax &&
    a.maxDelay == b.maxDelay && a.delayFactor.equals b.delayFactor && a.jitter == b.jitter &&
    (match a.jitterFactor, b.jitterFactor with
    | some x, some y => x.equals y
    | none, none => true
    | _, _ => false) &&
    a.maxDuration == b.maxDuration && a.maxRetries == b.maxRetries && sameConditions a b &&
    a.handlerIdentities == b.handlerIdentities

end Policy
end Reattempt
