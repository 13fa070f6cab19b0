import Mathlib.Tactic
import Reattempt.Proofs.Builder.Invariant

/-!
# Changes are refused only for a reason

A change to something that is not set yet is accepted exactly when the settings it leads to are
consistent: the checks before a change and the check of finished settings are the same rules. Only a
fixed delay of zero and a limit of no attempts are refused although the settings would be
consistent.
-/

set_option autoImplicit false

namespace Reattempt.Settings

open Change

variable {settings changed : Settings} {value low high cap rate : Value}

theorem withDelay_eq_ok_iff_consistent {delay : Duration} (consistent : settings.Consistent)
    (read : readDuration "delay" value = .ok delay) (notZero : delay ≠ .zero)
    (noRange : settings.delayMin = none) (noBackoff : settings.maxDelay = none) :
    settings.withDelay value = .ok changed ↔
      { settings with delay := delay } = changed ∧ changed.Consistent := by
  constructor
  · intro accepted
    refine ⟨?_, withDelay_preserves_consistent value consistent accepted⟩
    obtain ⟨taken, takenRead, _, _, _, _, _, result⟩ :=
      (withDelay_eq_ok_iff settings changed value).mp accepted
    cases Except.ok.inj (read.symm.trans takenRead)
    exact result
  · rintro ⟨rfl, reached⟩
    have positive : Duration.zero < delay := by
      have nonnegative : Duration.zero ≤ delay := reached.delay_not_negative
      simp only [Duration.lt_iff, Duration.le_iff, Duration.eq_iff, ne_eq,
        Duration.zero_microseconds] at nonnegative notZero ⊢
      omega
    refine (withDelay_eq_ok_iff settings _ value).mpr
      ⟨delay, read, positive, ?_, noRange, noBackoff, ?_, rfl⟩
    · intro limit set
      exact (reached.delay_below_maxDuration limit set).resolve_left notZero
    · intro jitter set
      have within := (reached.jitter_within_delay jitter set).2
      simpa [smallestDelay, noRange] using within

theorem withDelayRange_eq_ok_iff_consistent {delayMin delayMax : Duration}
    (consistent : settings.Consistent)
    (readMin : readDuration "delay_min" low = .ok delayMin)
    (readMax : readDuration "delay_max" high = .ok delayMax) :
    settings.withDelayRange low high = .ok changed ↔
      { settings with delayMin := some delayMin, delayMax := some delayMax } = changed ∧
        changed.Consistent := by
  constructor
  · intro accepted
    refine ⟨?_, withDelayRange_preserves_consistent low high consistent accepted⟩
    obtain ⟨takenMin, takenMinRead, takenMax, takenMaxRead, _, _, _, _, _, _, _, result⟩ :=
      (withDelayRange_eq_ok_iff settings changed low high).mp accepted
    cases Except.ok.inj (readMin.symm.trans takenMinRead)
    cases Except.ok.inj (readMax.symm.trans takenMaxRead)
    exact result
  · rintro ⟨rfl, reached⟩
    obtain ⟨positive, increasing⟩ := reached.bounds_increasing delayMin rfl delayMax rfl
    obtain ⟨noDelay, noBackoff⟩ := reached.random_alone rfl
    have positiveMax : Duration.zero < delayMax := by
      simp only [Duration.lt_iff] at positive increasing ⊢
      omega
    refine (withDelayRange_eq_ok_iff settings _ low high).mpr
      ⟨delayMin, readMin, delayMax, readMax, positive, positiveMax, increasing, ?_, noDelay,
        noBackoff, ?_, rfl⟩
    · intro limit set
      exact reached.delayMax_below_maxDuration limit set delayMax rfl
    · intro jitter set
      exact (reached.jitter_within_delay jitter set).2

theorem withBackoff_eq_ok_iff_consistent {delay maxDelay : Duration} {factor : Binary64}
    (consistent : settings.Consistent) (readDelay : readDuration "delay" value = .ok delay)
    (readCap : readDuration "max_delay" cap = .ok maxDelay)
    (readFactor : readNumber "delay_factor" rate = .ok factor)
    (noDelay : settings.delay = .zero) :
    settings.withBackoff value cap rate = .ok changed ↔
      { settings with delay := delay, maxDelay := some maxDelay, delayFactor := factor } =
          changed ∧
        changed.Consistent := by
  constructor
  · intro accepted
    refine ⟨?_, withBackoff_preserves_consistent value cap rate consistent accepted⟩
    obtain ⟨taken, takenRead, takenCap, takenCapRead, takenFactor, takenFactorRead,
      _, _, _, _, _, _, _, result⟩ :=
      (withBackoff_eq_ok_iff settings changed value cap rate).mp accepted
    cases Except.ok.inj (readDelay.symm.trans takenRead)
    cases Except.ok.inj (readCap.symm.trans takenCapRead)
    cases Except.ok.inj (readFactor.symm.trans takenFactorRead)
    exact result
  · rintro ⟨rfl, reached⟩
    obtain ⟨positive, increasing⟩ := reached.backoff_increasing maxDelay rfl
    have notZero : delay ≠ .zero := by
      simp only [Duration.lt_iff, Duration.eq_iff, ne_eq] at positive ⊢
      omega
    have noRange : settings.delayMin = none := by
      cases lowCase : settings.delayMin with
      | none => rfl
      | some least =>
          have alone := reached.random_alone (by simp [lowCase])
          exact absurd alone.2 (by simp)
    refine (withBackoff_eq_ok_iff settings _ value cap rate).mpr
      ⟨delay, readDelay, maxDelay, readCap, factor, readFactor, positive, ?_, increasing,
        reached.factor_above_one, noDelay, noRange, ?_, rfl⟩
    · intro limit set
      exact (reached.delay_below_maxDuration limit set).resolve_left notZero
    · intro jitter set
      have within := (reached.jitter_within_delay jitter set).2
      simpa [smallestDelay, noRange] using within

theorem withJitter_eq_ok_iff_consistent {jitter : Duration} (consistent : settings.Consistent)
    (read : readDuration "jitter" value = .ok jitter) (noFactor : settings.jitterFactor = none) :
    settings.withJitter value = .ok changed ↔
      { settings with jitter := some jitter } = changed ∧ changed.Consistent := by
  have unreset : ({ settings with jitterFactor := none, jitter := some jitter } : Settings) =
      { settings with jitter := some jitter } := by
    rw [← noFactor]
  constructor
  · intro accepted
    refine ⟨?_, withJitter_preserves_consistent value consistent accepted⟩
    obtain ⟨taken, takenRead, _, _, _, result⟩ :=
      (withJitter_eq_ok_iff settings changed value).mp accepted
    cases Except.ok.inj (read.symm.trans takenRead)
    exact unreset.symm.trans result
  · rintro ⟨rfl, reached⟩
    obtain ⟨positive, within⟩ := reached.jitter_within_delay jitter rfl
    exact (withJitter_eq_ok_iff settings _ value).mpr
      ⟨jitter, read, positive, by simp [noFactor], within, unreset⟩

theorem withJitterFactor_eq_ok_iff_consistent {factor : Binary64}
    (consistent : settings.Consistent)
    (read : readNumber "jitter_factor" value = .ok factor) :
    settings.withJitterFactor value = .ok changed ↔
      { settings with jitterFactor := some factor } = changed ∧ changed.Consistent := by
  constructor
  · intro accepted
    refine ⟨?_, withJitterFactor_preserves_consistent value consistent accepted⟩
    obtain ⟨taken, takenRead, _, _, result⟩ :=
      (withJitterFactor_eq_ok_iff settings changed value).mp accepted
    cases Except.ok.inj (read.symm.trans takenRead)
    exact result
  · rintro ⟨rfl, reached⟩
    have noJitter : settings.jitter = none := reached.one_jitter.resolve_right (by simp)
    exact (withJitterFactor_eq_ok_iff settings _ value).mpr
      ⟨factor, read, reached.jitterFactor_within_one factor rfl, noJitter, rfl⟩

theorem withMaxDuration_eq_ok_iff_consistent {limit : Duration}
    (consistent : settings.Consistent)
    (read : readDuration "max_duration" value = .ok limit) :
    settings.withMaxDuration value = .ok changed ↔
      { settings with maxDuration := some limit } = changed ∧ changed.Consistent := by
  constructor
  · intro accepted
    refine ⟨?_, withMaxDuration_preserves_consistent value consistent accepted⟩
    obtain ⟨taken, takenRead, _, _, _, result⟩ :=
      (withMaxDuration_eq_ok_iff settings changed value).mp accepted
    cases Except.ok.inj (read.symm.trans takenRead)
    exact result
  · rintro ⟨rfl, reached⟩
    exact (withMaxDuration_eq_ok_iff settings _ value).mpr
      ⟨limit, read, reached.maxDuration_not_negative limit rfl,
        reached.delay_below_maxDuration limit rfl,
        reached.delayMax_below_maxDuration limit rfl, rfl⟩

theorem withMaxRetries_eq_ok_iff_consistent {retries : Int} (consistent : settings.Consistent)
    (read : readInteger "max_retries" value = .ok retries) :
    settings.withMaxRetries value = .ok changed ↔
      { settings with maxRetries := retries } = changed ∧ changed.Consistent := by
  constructor
  · intro accepted
    refine ⟨?_, withMaxRetries_preserves_consistent value consistent accepted⟩
    obtain ⟨taken, takenRead, _, result⟩ :=
      (withMaxRetries_eq_ok_iff settings changed value).mp accepted
    cases Except.ok.inj (read.symm.trans takenRead)
    exact result
  · rintro ⟨rfl, reached⟩
    exact (withMaxRetries_eq_ok_iff settings _ value).mpr
      ⟨retries, read, reached.retries_at_least, rfl⟩

theorem withMaxAttempts_eq_ok_iff_consistent {attempts : Int} (consistent : settings.Consistent)
    (read : readInteger "max_attempts" value = .ok attempts) (notZero : attempts ≠ 0) :
    settings.withMaxAttempts value = .ok changed ↔
      { settings with maxRetries := if attempts = -1 then -1 else attempts - 1 } = changed ∧
        changed.Consistent := by
  constructor
  · intro accepted
    refine ⟨?_, withMaxAttempts_preserves_consistent value consistent accepted⟩
    obtain ⟨taken, takenRead, _, _, result⟩ :=
      (withMaxAttempts_eq_ok_iff settings changed value).mp accepted
    cases Except.ok.inj (read.symm.trans takenRead)
    exact result
  · rintro ⟨rfl, reached⟩
    have bounded : -1 ≤ (if attempts = -1 then -1 else attempts - 1) := reached.retries_at_least
    have enough : -1 ≤ attempts := by
      split at bounded <;> omega
    exact (withMaxAttempts_eq_ok_iff settings _ value).mpr
      ⟨attempts, read, notZero, enough, rfl⟩

/-! ## Settings that are taken back -/

theorem Consistent.withoutLimits (consistent : settings.Consistent) :
    ({ settings with maxRetries := 2 } : Settings).Consistent :=
  { consistent with retries_at_least := (by decide : (-1 : Int) ≤ 2) }

theorem Consistent.withoutMaxDuration (consistent : settings.Consistent) :
    ({ settings with maxDuration := none } : Settings).Consistent :=
  { consistent with
    maxDuration_not_negative := by simp
    delay_below_maxDuration := by simp
    delayMax_below_maxDuration := by simp }

theorem Consistent.withoutJitterFactor (consistent : settings.Consistent) :
    ({ settings with jitterFactor := none } : Settings).Consistent :=
  { consistent with
    jitterFactor_within_one := by simp
    one_jitter := Or.inr rfl }

theorem Consistent.withoutJitter (consistent : settings.Consistent) :
    ({ settings with jitter := none } : Settings).Consistent :=
  { consistent with
    one_jitter := Or.inl rfl
    jitter_within_delay := by simp }

end Reattempt.Settings
