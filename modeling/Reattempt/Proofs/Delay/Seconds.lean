import Mathlib.Tactic
import Reattempt.Proofs.Delay.Mode

/-!
# The seconds of a delay

Jitter moves the delay of the mode by no more than itself, and the clamp only lowers it. The seconds
of a delay are therefore a finite number and not below zero, whatever the attempt, the time elapsed
and the numbers drawn (`seconds_bounds`), and a delay is not below zero either (`compute_nonneg`).
-/

set_option autoImplicit false

namespace Reattempt

namespace Delay

open RandomSource Binary64 Duration

variable {ρ : Type} [RandomSource ρ]
variable {power : Power} {settings : Settings} {source : ρ}

/-! ## Jitter -/

def spreadValue (settings : Settings) (base : Binary64) : ℚ :=
  ((spread? settings base).map value).getD 0

theorem finite_of_within_one {factor : Binary64} (least : ofInt 0 ≤ factor)
    (most : factor ≤ ofInt 1) :
    factor.isFinite = true ∧ 0 ≤ factor.value ∧ factor.value ≤ 1 := by
  obtain ⟨zeroFinite, zeroValue⟩ := ofInt_zero
  obtain ⟨oneFinite, oneValue⟩ := ofInt_one
  rcases atLeast_of_le zeroFinite least with unbounded | ⟨finite, nonnegative⟩
  · rw [unbounded] at most
    exact absurd most (not_lt_of_lt (lt_infinite oneFinite)).2
  · rw [zeroValue] at nonnegative
    rw [le_iff finite oneFinite, oneValue] at most
    exact ⟨finite, nonnegative, most⟩

/-- Jitter is not greater than the delay that it moves. -/
theorem spread_bounds {base spread : Binary64} (consistent : settings.Consistent)
    (spans : settings.Spans base) (moved : spread? settings base = some spread) :
    spread.isFinite = true ∧ 0 ≤ spread.value ∧ spread.value ≤ base.value := by
  have nonnegative := spans.nonneg consistent
  unfold spread? at moved
  cases set : settings.jitterFactor with
  | some factor =>
      simp only [set, Option.some.injEq] at moved
      obtain ⟨least, most⟩ := consistent.jitterFactor_within_one factor set
      obtain ⟨finite, low, high⟩ := finite_of_within_one least most
      have partLow : 0 ≤ base.value * factor.value := mul_nonneg nonnegative low
      have partHigh : base.value * factor.value ≤ base.value :=
        mul_le_of_le_one_right nonnegative high
      have moderate : |base.value * factor.value| ≤ 2 ^ 100 := by
        have bounded := spans.le
        rw [abs_of_nonneg partLow]
        have large : (86400000000000 : ℚ) ≤ 2 ^ 100 := by norm_num
        linarith
      obtain ⟨spreadFinite, worth⟩ := mul_value spans.finite finite moderate
      rw [← moved, worth]
      exact ⟨spreadFinite, nearest_nonneg partLow, nearest_le_value partHigh⟩
  | none =>
      cases given : settings.jitter with
      | none => simp [set, given] at moved
      | some jitter =>
          simp only [set, given, Option.map_some, Option.some.injEq] at moved
          obtain ⟨positive, within⟩ := consistent.jitter_within_delay jitter given
          rw [← moved]
          refine ⟨jitter.toSeconds_value.1, (Duration.toSeconds_pos positive).le, ?_⟩
          exact (Duration.toSeconds_mono within).trans spans.least

theorem spreadValue_bounds {base : Binary64} (consistent : settings.Consistent)
    (spans : settings.Spans base) :
    0 ≤ spreadValue settings base ∧ spreadValue settings base ≤ base.value := by
  unfold spreadValue
  cases moved : spread? settings base with
  | none =>
      rw [Option.map_none, Option.getD_none]
      exact ⟨le_rfl, spans.nonneg consistent⟩
  | some spread =>
      rw [Option.map_some, Option.getD_some]
      exact (spread_bounds consistent spans moved).2

/-- Jitter does not move a delay below zero, and not by more than its spread. -/
theorem jittered_bounds {base : Binary64} (consistent : settings.Consistent)
    (spans : settings.Spans base) (within : WithinUnit source) :
    (jittered settings base source).1.isFinite = true ∧
      0 ≤ (jittered settings base source).1.value ∧
      (jittered settings base source).1.value ≤
        nearest (base.value + spreadValue settings base) := by
  have nonnegative := spans.nonneg consistent
  unfold spreadValue
  cases moved : spread? settings base with
  | none =>
      rw [jittered_of_none moved, Option.map_none, Option.getD_none, add_zero, nearest_value]
      exact ⟨spans.finite, nonnegative, le_rfl⟩
  | some spread =>
      obtain ⟨spreadFinite, low, high⟩ := spread_bounds consistent spans moved
      have most := spans.le
      have bounded : spread.value ≤ 2 ^ 48 := by linarith
      obtain ⟨moveFinite, move⟩ := abs_uniform_neg_le within spreadFinite low bounded
      obtain ⟨moveLow, moveHigh⟩ := abs_le.mp move
      have moderate : |base.value + (uniform (-spread) spread source).1.value| ≤ 2 ^ 100 := by
        rw [abs_le]
        constructor <;> linarith
      obtain ⟨sumFinite, sumValue⟩ := add_value spans.finite moveFinite moderate
      obtain ⟨finite, worth⟩ := larger_value sumFinite (b := .zero) rfl
      rw [sumValue, zero_value] at worth
      rw [jittered_of_some moved, Option.map_some, Option.getD_some]
      refine ⟨finite, ?_, ?_⟩
      · rw [worth]
        exact le_max_right _ _
      · rw [worth]
        refine max_le (nearest_mono ?_) (nearest_nonneg ?_)
        · linarith
        · linarith

/-! ## The clamp -/

def remainingSeconds (limit elapsed : Duration) : Binary64 :=
  Binary64.larger (limit.toSeconds - elapsed.toSeconds) .zero

theorem remainingSeconds_value (limit elapsed : Duration) :
    (remainingSeconds limit elapsed).isFinite = true ∧
      (remainingSeconds limit elapsed).value =
        max (nearest (limit.toSeconds.value - elapsed.toSeconds.value)) 0 := by
  have first := limit.abs_toSeconds_le
  have second := elapsed.abs_toSeconds_le
  have moderate : |limit.toSeconds.value - elapsed.toSeconds.value| ≤ 2 ^ 100 := by
    have triangle := abs_sub limit.toSeconds.value elapsed.toSeconds.value
    have large : (2 : ℚ) ^ 47 + 2 ^ 47 ≤ 2 ^ 100 := by norm_num
    linarith
  obtain ⟨finite, worth⟩ :=
    sub_value limit.toSeconds_value.1 elapsed.toSeconds_value.1 moderate
  obtain ⟨largerFinite, largerWorth⟩ := larger_value finite (b := .zero) rfl
  rw [worth, zero_value] at largerWorth
  exact ⟨largerFinite, largerWorth⟩

/-- The clamp takes the lesser of two numbers of seconds. -/
theorem clamped_value {limit : Duration} (elapsed : Duration) {x : Binary64}
    (limited : settings.maxDuration = some limit) (finite : x.isFinite = true) :
    (clamped settings elapsed x).isFinite = true ∧
      (clamped settings elapsed x).value = min x.value (remainingSeconds limit elapsed).value := by
  have bounded : clamped settings elapsed x =
      Binary64.smaller x (remainingSeconds limit elapsed) := by
    simp only [clamped, limited, remainingSeconds]
  rw [bounded]
  exact smaller_value finite (remainingSeconds_value limit elapsed).1

theorem clamped_bounds (settings : Settings) (elapsed : Duration) {x : Binary64}
    (finite : x.isFinite = true) (nonnegative : 0 ≤ x.value) :
    (clamped settings elapsed x).isFinite = true ∧ 0 ≤ (clamped settings elapsed x).value ∧
      (clamped settings elapsed x).value ≤ x.value := by
  cases limited : settings.maxDuration with
  | none =>
      have unbounded : clamped settings elapsed x = x := by simp only [clamped, limited]
      rw [unbounded]
      exact ⟨finite, nonnegative, le_rfl⟩
  | some limit =>
      obtain ⟨bounded, worth⟩ := clamped_value elapsed limited finite
      obtain ⟨-, remaining⟩ := remainingSeconds_value limit elapsed
      refine ⟨bounded, ?_, ?_⟩
      · rw [worth, remaining]
        exact le_min nonnegative (le_max_right _ _)
      · rw [worth]
        exact min_le_left _ _

/-! ## The whole delay -/

/-- The delay in seconds before the clamp. -/
def unclamped (power : Power) (settings : Settings) (history : History) (source : ρ) : Binary64 :=
  (jittered settings (baseSeconds power settings history.attemptNumber source).1
    (baseSeconds power settings history.attemptNumber source).2).1

theorem seconds_eq_clamped (history : History) :
    (seconds power settings history source).1 =
      clamped settings history.elapsed (unclamped power settings history source) := rfl

theorem unclamped_bounds (consistent : settings.Consistent) (growing : power.Growing)
    (within : WithinUnit source) (history : History) :
    (unclamped power settings history source).isFinite = true ∧
      0 ≤ (unclamped power settings history source).value ∧
      ∃ base, settings.Spans base ∧
        (unclamped power settings history source).value ≤
          nearest (base.value + spreadValue settings base) := by
  have spans := baseSeconds_spans consistent growing within history.attemptNumber
  have rest : WithinUnit (baseSeconds power settings history.attemptNumber source).2 := by
    rw [baseSeconds_source]
    exact within.advanced _
  obtain ⟨finite, least, most⟩ := jittered_bounds consistent spans rest
  exact ⟨finite, least, _, spans, most⟩

/-- The seconds of a delay are finite, not below zero, and at most twice as many as a duration can
have. -/
theorem seconds_bounds (consistent : settings.Consistent) (growing : power.Growing)
    (within : WithinUnit source) (history : History) :
    (seconds power settings history source).1.isFinite = true ∧
      0 ≤ (seconds power settings history source).1.value ∧
      (seconds power settings history source).1.value ≤ 172800000000000 := by
  obtain ⟨finite, nonnegative, base, spans, most⟩ :=
    unclamped_bounds consistent growing within history
  obtain ⟨clampedFinite, clampedLeast, clampedMost⟩ :=
    clamped_bounds settings history.elapsed finite nonnegative
  have spread := (spreadValue_bounds consistent spans).2
  have twice : base.value + spreadValue settings base ≤ 2 * base.value := by linarith
  have kept := nearest_mono twice
  rw [nearest_double] at kept
  have bounded := spans.le
  rw [seconds_eq_clamped]
  refine ⟨clampedFinite, clampedLeast, ?_⟩
  linarith

variable {history : History}

theorem compute_fst :
    (compute power settings history source).1 =
      ofSeconds (seconds power settings history (fresh source)).1 := rfl

theorem compute_eq_ok {delay : Duration} (consistent : settings.Consistent)
    (growing : power.Growing) (within : WithinUnit (fresh source))
    (computed : (compute power settings history source).1 = .ok delay) :
    delay.microseconds = microsecondsOf (seconds power settings history (fresh source)).1 := by
  have finite := (seconds_bounds consistent growing within history).1
  rw [compute_fst, ofSeconds_of_finite finite] at computed
  exact ofMicroseconds_eq_ok computed

theorem compute_nonneg {delay : Duration} (consistent : settings.Consistent)
    (growing : power.Growing) (within : WithinUnit (fresh source))
    (computed : (compute power settings history source).1 = .ok delay) : .zero ≤ delay := by
  obtain ⟨finite, least, -⟩ := seconds_bounds consistent growing within history
  rw [compute_fst] at computed
  refine ofSeconds_nonneg ?_ computed
  have zeroFinite : zero.isFinite = true := rfl
  rw [lt_iff finite zeroFinite, zero_value]
  exact not_lt.mpr least

end Delay
end Reattempt
