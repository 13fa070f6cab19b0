import Mathlib.Tactic
import Reattempt.Builder
import Reattempt.Proofs.Field.Validation
import Reattempt.Proofs.Settings.Consistency

/-!
# Which changes are accepted

For each change: the arguments and the settings for which it goes through, and what it sets then.
These are all that later proofs know of the changes.
-/

set_option autoImplicit false

namespace Reattempt

namespace Change

theorem demand_eq_ok_iff (condition : Prop) [Decidable condition] (error : ChangeError)
    (answer : Unit) : demand condition error = .ok answer ↔ condition := by
  unfold demand
  split <;> simp_all

@[simp] theorem demandArgument_eq_ok_iff (condition : Prop) [Decidable condition]
    (fault : ArgumentFault) (answer : Unit) :
    demandArgument condition fault = .ok answer ↔ condition :=
  demand_eq_ok_iff condition _ answer

@[simp] theorem demandState_eq_ok_iff (condition : Prop) [Decidable condition]
    (conflict : StateConflict) (answer : Unit) :
    demandState condition conflict = .ok answer ↔ condition :=
  demand_eq_ok_iff condition _ answer

end Change

namespace Settings

open Change

variable (settings changed : Settings)

theorem withDelay_eq_ok_iff (value : Value) :
    settings.withDelay value = .ok changed ↔
      ∃ delay, readDuration "delay" value = .ok delay ∧ .zero < delay ∧
        below delay settings.maxDuration ∧ settings.delayMin = none ∧
        settings.maxDelay = none ∧ settings.jitterWithin delay ∧
        { settings with delay := delay } = changed := by
  simp only [withDelay, bind_eq_ok_iff, demandArgument_eq_ok_iff, demandState_eq_ok_iff,
    exists_const, pure, Except.pure, Except.ok.injEq]

theorem withDelayRange_eq_ok_iff (minValue maxValue : Value) :
    settings.withDelayRange minValue maxValue = .ok changed ↔
      ∃ delayMin, readDuration "delay_min" minValue = .ok delayMin ∧
        ∃ delayMax, readDuration "delay_max" maxValue = .ok delayMax ∧
          .zero < delayMin ∧ .zero < delayMax ∧ delayMin < delayMax ∧
          below delayMax settings.maxDuration ∧ settings.delay = .zero ∧
          settings.maxDelay = none ∧ settings.jitterWithin delayMin ∧
          { settings with delayMin := some delayMin, delayMax := some delayMax } = changed := by
  simp only [withDelayRange, bind_eq_ok_iff, demandArgument_eq_ok_iff, demandState_eq_ok_iff,
    exists_const, pure, Except.pure, Except.ok.injEq]

theorem withBackoff_eq_ok_iff (delayValue maxValue factorValue : Value) :
    settings.withBackoff delayValue maxValue factorValue = .ok changed ↔
      ∃ delay, readDuration "delay" delayValue = .ok delay ∧
        ∃ maxDelay, readDuration "max_delay" maxValue = .ok maxDelay ∧
          ∃ delayFactor, readNumber "delay_factor" factorValue = .ok delayFactor ∧
            .zero < delay ∧ below delay settings.maxDuration ∧ delay < maxDelay ∧
            Binary64.ofInt 1 < delayFactor ∧ settings.delay = .zero ∧
            settings.delayMin = none ∧ settings.jitterWithin delay ∧
            { settings with
              delay := delay, maxDelay := some maxDelay, delayFactor := delayFactor } =
              changed := by
  simp only [withBackoff, bind_eq_ok_iff, demandArgument_eq_ok_iff, demandState_eq_ok_iff,
    exists_const, pure, Except.pure, Except.ok.injEq]

theorem withJitter_eq_ok_iff (value : Value) :
    settings.withJitter value = .ok changed ↔
      ∃ jitter, readDuration "jitter" value = .ok jitter ∧ .zero < jitter ∧
        settings.jitterFactor.all Binary64.isZero = true ∧ jitter ≤ settings.smallestDelay ∧
        { settings with jitterFactor := none, jitter := some jitter } = changed := by
  simp only [withJitter, bind_eq_ok_iff, demandArgument_eq_ok_iff, demandState_eq_ok_iff,
    exists_const, pure, Except.pure, Except.ok.injEq]

theorem withJitterFactor_eq_ok_iff (value : Value) :
    settings.withJitterFactor value = .ok changed ↔
      ∃ factor, readNumber "jitter_factor" value = .ok factor ∧
        (Binary64.ofInt 0 ≤ factor ∧ factor ≤ Binary64.ofInt 1) ∧ settings.jitter = none ∧
        { settings with jitterFactor := some factor } = changed := by
  simp only [withJitterFactor, bind_eq_ok_iff, demandArgument_eq_ok_iff,
    demandState_eq_ok_iff, exists_const, pure, Except.pure, Except.ok.injEq]

theorem withMaxDuration_eq_ok_iff (value : Value) :
    settings.withMaxDuration value = .ok changed ↔
      ∃ limit, readDuration "max_duration" value = .ok limit ∧ .zero ≤ limit ∧
        (settings.delay = .zero ∨ settings.delay < limit) ∧
        (∀ high ∈ settings.delayMax, high < limit) ∧
        { settings with maxDuration := some limit } = changed := by
  simp only [withMaxDuration, bind_eq_ok_iff, demandArgument_eq_ok_iff, demandState_eq_ok_iff,
    exists_const, pure, Except.pure, Except.ok.injEq, Option.all_eq_true, decide_eq_true_eq,
    Option.mem_def]

theorem withMaxRetries_eq_ok_iff (value : Value) :
    settings.withMaxRetries value = .ok changed ↔
      ∃ retries, readInteger "max_retries" value = .ok retries ∧ -1 ≤ retries ∧
        { settings with maxRetries := retries } = changed := by
  simp only [withMaxRetries, bind_eq_ok_iff, demandArgument_eq_ok_iff, exists_const, pure,
    Except.pure, Except.ok.injEq]

theorem withMaxAttempts_eq_ok_iff (value : Value) :
    settings.withMaxAttempts value = .ok changed ↔
      ∃ attempts, readInteger "max_attempts" value = .ok attempts ∧ attempts ≠ 0 ∧
        -1 ≤ attempts ∧
        { settings with maxRetries := if attempts = -1 then -1 else attempts - 1 } =
          changed := by
  simp only [withMaxAttempts, bind_eq_ok_iff, demandArgument_eq_ok_iff, exists_const, pure,
    Except.pure, Except.ok.injEq]

theorem abortOn_eq_ok_iff (tag : Nat) (failureTypes : List Value) :
    settings.abortOn tag failureTypes = .ok changed ↔
      failureTypes ≠ [] ∧
        ∃ errorClasses, readErrorTypes failureTypes = .ok errorClasses ∧
          settings.addRule tag (.failureTypes errorClasses) = changed := by
  simp only [abortOn, bind_eq_ok_iff, demandArgument_eq_ok_iff, exists_const, pure,
    Except.pure, Except.ok.injEq, List.isEmpty_eq_false_iff, ne_eq]

end Settings
end Reattempt
