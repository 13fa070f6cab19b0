import Reattempt.Decision
import Reattempt.Decimal.Layout
/-!
# Previewing a policy

A preview lists the verdicts on a run of failing attempts without running anything. A description
summarises the settings of a policy line by line.
-/
set_option autoImplicit false

namespace Reattempt

structure Preview (ρ : Type) where
  verdicts : Except Failure (List Verdict)
  source : ρ
  actions : List Action

def simulatedFailure : Failure := ⟨.runtimeError, some "simulated failure"⟩

namespace Preview

variable {ρ : Type} [RandomSource ρ]

def after (verdict : Verdict) (actions : List Action) (preview : Preview ρ) : Preview ρ :=
  { preview with
    verdicts := preview.verdicts.map (verdict :: ·)
    actions := actions ++ preview.actions }

def stop (error : Duration.RangeError) (source : ρ) (actions : List Action) : Preview ρ :=
  ⟨.error (Failure.ofRangeError error), source, actions⟩

/-- The verdicts on this many further failing attempts. Each attempt takes the same time, and every
scheduled delay passes before the next one. -/
def simulateFrom (policy : Policy) (power : Power)
    (attemptTime : Except Duration.RangeError Duration) :
    Nat → History → Duration → ρ → Preview ρ
  | 0, _, _, source => ⟨.ok [], source, []⟩
  | failures + 1, history, elapsed, source =>
      match attemptTime.bind elapsed.add with
      | .error error => stop error source []
      | .ok elapsed =>
          let outcome := Outcome.failed (some simulatedFailure) .null
          let history := history.record outcome elapsed
          let decision := policy.evaluate power history outcome source
          match decision.verdict with
          | .error raised => ⟨.error raised, decision.source, decision.actions⟩
          | .ok verdict =>
              if verdict.isComplete then ⟨.ok [verdict], decision.source, decision.actions⟩
              else
                match history.recordDelay verdict.delay, elapsed.add verdict.delay with
                | .ok history, .ok elapsed =>
                    (simulateFrom policy power attemptTime failures history elapsed
                      decision.source).after verdict decision.actions
                | .error error, _ => stop error decision.source decision.actions
                | _, .error error => stop error decision.source decision.actions

def simulate (policy : Policy) (power : Power) (failures : Nat)
    (attemptTime : Except Duration.RangeError Duration) (source : ρ) : Preview ρ :=
  simulateFrom policy power attemptTime failures {} .zero source

end Preview

def secondsText : Option Duration → String
  | none => "unset"
  | some duration => Decimal.summaryText duration.toSeconds ++ "s"

def Settings.delayLine (settings : Settings) : String :=
  match settings.delayMin, settings.maxDelay with
  | some delayMin, _ =>
      "Delay range: " ++ secondsText (some delayMin) ++ " - " ++ secondsText settings.delayMax
  | none, some maxDelay =>
      "Backoff: " ++ secondsText (some settings.delay) ++ " up to " ++
        secondsText (some maxDelay) ++ " (factor " ++
        Decimal.summaryText settings.delayFactor ++ ")"
  | none, none => "Delay: " ++ secondsText (some settings.delay)

def Settings.jitterLines (settings : Settings) : List String :=
  match settings.jitter, settings.jitterFactor with
  | some jitter, _ => ["Jitter: " ++ secondsText (some jitter)]
  | none, some factor => ["Jitter factor: " ++ Decimal.summaryText factor]
  | none, none => []

def Settings.describe (settings : Settings) : List String :=
  ["Delay mode: " ++ settings.delayMode.name, settings.delayLine] ++ settings.jitterLines ++
    ["Max attempts: " ++
      (if settings.maxAttempts = -1 then "unlimited" else toString settings.maxAttempts),
    "Max duration: " ++ secondsText settings.maxDuration,
    "Abort conditions: " ++ toString settings.abortConditions.length,
    "Allows retries: " ++ (if settings.allowsRetries then "yes" else "no")]

/-- The summary of a policy, whose number of attempts has to be written for it. -/
def Settings.description (settings : Settings) : Except Duration.RangeError (List String) :=
  if Decimal.isWritable settings.maxAttempts then .ok settings.describe else .error .digits

end Reattempt
