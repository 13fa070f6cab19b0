import Mathlib.Tactic
import Reattempt.Policy

/-!
# When settings make a policy

The check of finished settings looks for values out of bounds and then for the first conflict.
`Settings.Consistent` says what it demands as one list of facts, without an order, and
`problems_eq_nil_iff_consistent` that the check finds nothing exactly when they all hold.
-/

set_option autoImplicit false

namespace Reattempt

namespace Duration

theorem lt_iff (a b : Duration) : a < b ↔ a.microseconds < b.microseconds := Iff.rfl

theorem le_iff (a b : Duration) : a ≤ b ↔ a.microseconds ≤ b.microseconds := Iff.rfl

theorem eq_iff (a b : Duration) : a = b ↔ a.microseconds = b.microseconds := by
  cases a
  cases b
  simp

@[simp] theorem zero_microseconds : Duration.zero.microseconds = 0 := rfl

theorem not_lt_zero_iff (a : Duration) : ¬ a < .zero ↔ .zero ≤ a := by
  simp only [lt_iff, le_iff]
  omega

end Duration

namespace Settings

/-- The rules that finished settings obey, each on its own. -/
structure Consistent (settings : Settings) : Prop where
  factor_above_one : Binary64.ofInt 1 < settings.delayFactor
  jitterFactor_within_one : ∀ factor ∈ settings.jitterFactor,
    Binary64.ofInt 0 ≤ factor ∧ factor ≤ Binary64.ofInt 1
  retries_at_least : -1 ≤ settings.maxRetries
  delay_not_negative : .zero ≤ settings.delay
  bounds_together : settings.delayMin.isSome = settings.delayMax.isSome
  bounds_increasing : ∀ low ∈ settings.delayMin, ∀ high ∈ settings.delayMax,
    .zero < low ∧ low < high
  random_alone : settings.delayMin.isSome → settings.delay = .zero ∧ settings.maxDelay = none
  backoff_increasing : ∀ cap ∈ settings.maxDelay,
    .zero < settings.delay ∧ settings.delay < cap
  one_jitter : settings.jitter = none ∨ settings.jitterFactor = none
  jitter_within_delay : ∀ jitter ∈ settings.jitter,
    .zero < jitter ∧ jitter ≤ settings.smallestDelay
  maxDuration_not_negative : ∀ limit ∈ settings.maxDuration, .zero ≤ limit
  delay_below_maxDuration : ∀ limit ∈ settings.maxDuration,
    settings.delay = .zero ∨ settings.delay < limit
  delayMax_below_maxDuration : ∀ limit ∈ settings.maxDuration,
    ∀ high ∈ settings.delayMax, high < limit

/-- One rule in a series of rules: it is kept, and so are the rest. -/
theorem rule_eq_none_iff {α : Type} (broken : Prop) [Decidable broken] (found : α)
    (rest : Option α) :
    (if broken then some found else rest) = none ↔ ¬ broken ∧ rest = none := by
  split <;> simp_all

/-! ## Values out of bounds -/

theorem delayFactorFault?_eq_none_iff (factor : Binary64) :
    delayFactorFault? factor = none ↔ Binary64.ofInt 1 < factor := by
  unfold delayFactorFault?
  split <;> simp_all

theorem jitterFactorFault?_eq_none_iff (factor : Binary64) :
    jitterFactorFault? factor = none ↔
      Binary64.ofInt 0 ≤ factor ∧ factor ≤ Binary64.ofInt 1 := by
  simp only [jitterFactorFault?, rule_eq_none_iff, not_not, and_true]
  exact and_comm

theorem retriesFault?_eq_none_iff (retries : Int) :
    retriesFault? retries = none ↔ -1 ≤ retries := by
  simp only [retriesFault?, rule_eq_none_iff, and_true]
  omega

theorem boundProblems_eq_nil_iff (settings : Settings) :
    settings.boundProblems = [] ↔
      Binary64.ofInt 1 < settings.delayFactor ∧
        (∀ factor ∈ settings.jitterFactor,
          Binary64.ofInt 0 ≤ factor ∧ factor ≤ Binary64.ofInt 1) ∧
        -1 ≤ settings.maxRetries := by
  have unnoted : ∀ (name : String) (fault : Option Fault),
      ((fault.map fun fault => (⟨[.field name], fault⟩ : Problem)).toList = []) ↔
        fault = none := by
    intro name fault
    cases fault <;> simp
  have unjittered : settings.jitterFactor.bind jitterFactorFault? = none ↔
      ∀ factor ∈ settings.jitterFactor,
        Binary64.ofInt 0 ≤ factor ∧ factor ≤ Binary64.ofInt 1 := by
    cases settings.jitterFactor with
    | none => simp
    | some factor => simp [jitterFactorFault?_eq_none_iff]
  simp only [boundProblems, List.append_eq_nil_iff, unnoted, unjittered,
    delayFactorFault?_eq_none_iff, retriesFault?_eq_none_iff, and_assoc]

/-! ## Conflicts -/

theorem randomConflict?_eq_none_iff (settings : Settings) (nonnegative : .zero ≤ settings.delay) :
    settings.randomConflict? = none ↔
      settings.delayMin.isSome = settings.delayMax.isSome ∧
        (∀ low ∈ settings.delayMin, ∀ high ∈ settings.delayMax, .zero < low ∧ low < high) ∧
        (settings.delayMin.isSome → settings.delay = .zero ∧ settings.maxDelay = none) := by
  unfold randomConflict?
  cases settings.delayMin with
  | none => cases settings.delayMax <;> simp
  | some low =>
      cases settings.delayMax with
      | none => simp
      | some high =>
          simp only [rule_eq_none_iff, Option.mem_some_iff, forall_eq', Option.isSome_some,
            true_and, forall_const, Bool.not_eq_true, Option.isSome_eq_false_iff,
            Option.isNone_iff_eq_none, and_true]
          simp only [Duration.lt_iff, Duration.le_iff, Duration.eq_iff,
            Duration.zero_microseconds] at nonnegative ⊢
          constructor
          · rintro ⟨positive, increasing, unfixed, ungrowing⟩
            exact ⟨⟨by omega, by omega⟩, by omega, ungrowing⟩
          · rintro ⟨⟨positive, increasing⟩, unfixed, ungrowing⟩
            exact ⟨by omega, by omega, by omega, ungrowing⟩

theorem backoffConflict?_eq_none_iff (settings : Settings) :
    settings.backoffConflict? = none ↔
      ∀ cap ∈ settings.maxDelay, .zero < settings.delay ∧ settings.delay < cap := by
  unfold backoffConflict?
  cases settings.maxDelay with
  | none => simp
  | some cap =>
      simp only [rule_eq_none_iff, Duration.lt_iff, Duration.le_iff, not_le, and_true,
        Option.mem_some_iff, forall_eq']

theorem jitterConflict?_eq_none_iff (settings : Settings) :
    settings.jitterConflict? = none ↔
      (settings.jitter = none ∨ settings.jitterFactor = none) ∧
        ∀ jitter ∈ settings.jitter, .zero < jitter ∧ jitter ≤ settings.smallestDelay := by
  unfold jitterConflict?
  cases settings.jitter with
  | none => simp
  | some jitter =>
      simp only [rule_eq_none_iff, Duration.lt_iff, Duration.le_iff, not_le, not_lt, and_true,
        Option.mem_some_iff, forall_eq', Bool.not_eq_true, Option.isSome_eq_false_iff,
        Option.isNone_iff_eq_none, reduceCtorEq, false_or]

theorem durationConflict?_eq_none_iff (settings : Settings)
    (nonnegative : .zero ≤ settings.delay) :
    settings.durationConflict? = none ↔
      (∀ limit ∈ settings.maxDuration, .zero ≤ limit) ∧
        (∀ limit ∈ settings.maxDuration, settings.delay = .zero ∨ settings.delay < limit) ∧
        ∀ limit ∈ settings.maxDuration, ∀ high ∈ settings.delayMax, high < limit := by
  unfold durationConflict?
  cases settings.maxDuration with
  | none => simp
  | some limit =>
      have highBelow : ¬ (settings.delayMax.any fun high => decide (limit ≤ high)) = true ↔
          ∀ high ∈ settings.delayMax, high < limit := by
        cases settings.delayMax <;> simp [Duration.lt_iff, Duration.le_iff]
      have delayBelow : ¬ (Duration.zero < settings.delay ∧ limit ≤ settings.delay) ↔
          settings.delay = .zero ∨ settings.delay < limit := by
        simp only [Duration.lt_iff, Duration.le_iff, Duration.eq_iff,
          Duration.zero_microseconds] at nonnegative ⊢
        omega
      simp only [rule_eq_none_iff, highBelow, delayBelow, Duration.not_lt_zero_iff, and_true,
        Option.mem_some_iff, forall_eq']

theorem conflict?_eq_none_iff (settings : Settings) :
    settings.conflict? = none ↔
      .zero ≤ settings.delay ∧ settings.randomConflict? = none ∧
        settings.backoffConflict? = none ∧ settings.jitterConflict? = none ∧
        settings.durationConflict? = none := by
  unfold conflict?
  split
  · rename_i negative
    simp only [reduceCtorEq, false_iff, not_and]
    intro nonnegative
    exact absurd negative ((Duration.not_lt_zero_iff _).mpr nonnegative)
  · rename_i notNegative
    simp [(Duration.not_lt_zero_iff _).mp notNegative]

/-- The check of finished settings finds nothing exactly when every rule holds. -/
theorem problems_eq_nil_iff_consistent (settings : Settings) :
    settings.problems = [] ↔ settings.Consistent := by
  have split : settings.problems = [] ↔
      settings.boundProblems = [] ∧ settings.conflict? = none := by
    unfold problems
    split
    · rename_i unbounded
      have noBounds : settings.boundProblems = [] := List.isEmpty_iff.mp unbounded
      cases settings.conflict? <;> simp [noBounds]
    · rename_i bounded
      have someBounds : settings.boundProblems ≠ [] := by
        intro noBounds
        exact bounded (List.isEmpty_iff.mpr noBounds)
      simp [someBounds]
  rw [split, boundProblems_eq_nil_iff, conflict?_eq_none_iff]
  constructor
  · rintro ⟨⟨factor, jitterFactor, retries⟩, nonnegative, random, backoff, jitter, duration⟩
    obtain ⟨together, increasing, alone⟩ :=
      (randomConflict?_eq_none_iff settings nonnegative).mp random
    obtain ⟨oneJitter, within⟩ := (jitterConflict?_eq_none_iff settings).mp jitter
    obtain ⟨limitNonnegative, delayBelow, highBelow⟩ :=
      (durationConflict?_eq_none_iff settings nonnegative).mp duration
    exact ⟨factor, jitterFactor, retries, nonnegative, together, increasing, alone,
      (backoffConflict?_eq_none_iff settings).mp backoff, oneJitter, within,
      limitNonnegative, delayBelow, highBelow⟩
  · intro consistent
    refine ⟨⟨consistent.factor_above_one, consistent.jitterFactor_within_one,
      consistent.retries_at_least⟩, consistent.delay_not_negative, ?_, ?_, ?_, ?_⟩
    · exact (randomConflict?_eq_none_iff settings consistent.delay_not_negative).mpr
        ⟨consistent.bounds_together, consistent.bounds_increasing, consistent.random_alone⟩
    · exact (backoffConflict?_eq_none_iff settings).mpr consistent.backoff_increasing
    · exact (jitterConflict?_eq_none_iff settings).mpr
        ⟨consistent.one_jitter, consistent.jitter_within_delay⟩
    · exact (durationConflict?_eq_none_iff settings consistent.delay_not_negative).mpr
        ⟨consistent.maxDuration_not_negative, consistent.delay_below_maxDuration,
          consistent.delayMax_below_maxDuration⟩

end Settings
end Reattempt
