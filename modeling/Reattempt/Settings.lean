import Reattempt.AbortCondition
import Reattempt.Event
import Reattempt.Problem
/-!
# Settings of a retry policy

The settings say how long to wait between attempts, when to give up, which outcomes end a run at
once and who is told. They are consistent when no setting is out of bounds and no two of them
conflict.
-/
set_option autoImplicit false

namespace Reattempt

/-- A fixed delay is `delay` alone; with `maxDelay` it is the start of a growing one, and the two
bounds are those of a random one. A negative `maxRetries` of -1 means no limit. -/
structure Settings where
  delay : Duration := .zero
  delayMin : Option Duration := none
  delayMax : Option Duration := none
  maxDelay : Option Duration := none
  delayFactor : Binary64 := Binary64.ofInt 2
  jitter : Option Duration := none
  jitterFactor : Option Binary64 := none
  maxDuration : Option Duration := none
  maxRetries : Int := 2
  abortConditions : List AbortCondition := []
  handlers : Handlers := {}

namespace Settings

def delayFactorFault? (factor : Binary64) : Option Fault :=
  if Binary64.ofInt 1 < factor then none else some (.notAbove 1)

def jitterFactorFault? (factor : Binary64) : Option Fault :=
  if ¬ factor ≤ Binary64.ofInt 1 then some (.notAtMost 1)
  else if ¬ Binary64.ofInt 0 ≤ factor then some (.notAtLeast 0)
  else none

def retriesFault? (retries : Int) : Option Fault :=
  if retries < -1 then some (.notAtLeast (-1)) else none

def boundProblems (settings : Settings) : List Problem :=
  let problem (name : String) (fault : Option Fault) : List Problem :=
    (fault.map fun fault => ⟨[.field name], fault⟩).toList
  problem "delay_factor" (delayFactorFault? settings.delayFactor) ++
    problem "jitter_factor" (settings.jitterFactor.bind jitterFactorFault?) ++
    problem "max_retries" (retriesFault? settings.maxRetries)

def smallestDelay (settings : Settings) : Duration := settings.delayMin.getD settings.delay

def randomConflict? (settings : Settings) : Option Conflict :=
  match settings.delayMin, settings.delayMax with
  | none, none => none
  | some delayMin, some delayMax =>
      if delayMin ≤ .zero ∨ delayMax ≤ .zero then some .boundsNotPositive
      else if delayMax ≤ delayMin then some .boundsNotIncreasing
      else if Duration.zero < settings.delay then some .fixedAndRandom
      else if settings.maxDelay.isSome then some .backoffAndRandom
      else none
  | _, _ => some .oneBoundOnly

def backoffConflict? (settings : Settings) : Option Conflict :=
  match settings.maxDelay with
  | none => none
  | some maxDelay =>
      if settings.delay ≤ .zero then some .backoffWithoutDelay
      else if maxDelay ≤ settings.delay then some .delayNotBelowMaxDelay
      else none

def jitterConflict? (settings : Settings) : Option Conflict :=
  match settings.jitter with
  | none => none
  | some jitter =>
      if settings.jitterFactor.isSome then some .jitterTwice
      else if jitter ≤ .zero then some .jitterNotPositive
      else if settings.smallestDelay < jitter then some .jitterAboveSmallestDelay
      else none

def durationConflict? (settings : Settings) : Option Conflict :=
  match settings.maxDuration with
  | none => none
  | some maxDuration =>
      if maxDuration < .zero then some .negativeMaxDuration
      else if Duration.zero < settings.delay ∧ maxDuration ≤ settings.delay then
        some .delayNotBelowMaxDuration
      else if settings.delayMax.any fun delayMax => decide (maxDuration ≤ delayMax) then
        some .delayMaxNotBelowMaxDuration
      else none

/-- The first conflict between settings, in the order in which they are looked for. -/
def conflict? (settings : Settings) : Option Conflict :=
  if settings.delay < .zero then some .negativeDelay
  else
    settings.randomConflict? <|> settings.backoffConflict? <|> settings.jitterConflict? <|>
      settings.durationConflict?

/-- What is wrong with the settings: those out of bounds, or else the first conflict. -/
def problems (settings : Settings) : List Problem :=
  if settings.boundProblems.isEmpty then
    (settings.conflict?.map fun conflict => ⟨[], .conflict conflict⟩).toList
  else settings.boundProblems

end Settings
end Reattempt
