import Mathlib.Tactic
import Reattempt.Proofs.Delay.Draws
import Reattempt.Proofs.Duration.Conversion
import Reattempt.Proofs.Settings.Consistency

/-!
# The delay of a mode

Consistent settings have one of four shapes, one for each mode (`Settings.Consistent.shaped`). In
every mode, before jitter and the clamp, the delay lies between the least and the greatest
configured one (`baseSeconds_spans`), whatever the attempt and the numbers drawn. Of the powers of
the platform nothing is used but that they do not fall below one.
-/

set_option autoImplicit false

namespace Reattempt

/-- Powers of a base above one, to an exponent that is not negative, are at least one. -/
def Power.Growing (power : Power) : Prop :=
  ∀ base exponent, Binary64.ofInt 1 < base → Binary64.ofInt 0 ≤ exponent →
    Binary64.ofInt 1 ≤ power base exponent

def Power.first : Power := fun base _ => base

theorem Power.first_growing : Power.first.Growing := by
  intro base exponent above nonnegative
  change Binary64.less _ base = true at above
  change Binary64.lessOrEqual _ base = true
  unfold Binary64.less at above
  unfold Binary64.lessOrEqual
  split at above
  · simp only [decide_eq_true_eq] at above ⊢
    exact above.le
  · cases above

namespace Settings

def longestDelay (settings : Settings) : Duration :=
  settings.delayMax.getD (settings.maxDelay.getD settings.delay)

variable {settings : Settings}

inductive Shaped (settings : Settings) : DelayMode → Prop
  | none (unbounded : settings.delayMin = none ∧ settings.delayMax = none)
      (capless : settings.maxDelay = none) (nothing : settings.delay = .zero) :
      Shaped settings .none
  | fixed (unbounded : settings.delayMin = none ∧ settings.delayMax = none)
      (capless : settings.maxDelay = none) (positive : .zero < settings.delay) :
      Shaped settings .fixed
  | random (low high : Duration)
      (bounded : settings.delayMin = some low ∧ settings.delayMax = some high)
      (positive : .zero < low) (increasing : low < high) : Shaped settings .random
  | backoff (cap : Duration) (unbounded : settings.delayMin = none ∧ settings.delayMax = none)
      (capped : settings.maxDelay = some cap) (positive : .zero < settings.delay)
      (increasing : settings.delay < cap) : Shaped settings .backoff

theorem Consistent.shaped (consistent : settings.Consistent) :
    settings.Shaped settings.delayMode := by
  have together := consistent.bounds_together
  have increasing := consistent.bounds_increasing
  have growing := consistent.backoff_increasing
  have nonnegative := consistent.delay_not_negative
  unfold delayMode
  cases low : settings.delayMin with
  | some least =>
      cases high : settings.delayMax with
      | none => simp [low, high] at together
      | some most =>
          obtain ⟨positive, ordered⟩ := increasing least low most high
          exact .random least most ⟨low, high⟩ positive ordered
  | none =>
      have unbounded : settings.delayMax = none := by
        cases high : settings.delayMax with
        | none => rfl
        | some most => simp [low, high] at together
      cases capped : settings.maxDelay with
      | some cap =>
          obtain ⟨positive, ordered⟩ := growing cap capped
          exact .backoff cap ⟨low, unbounded⟩ capped positive ordered
      | none =>
          by_cases positive : Duration.zero < settings.delay
          · rw [if_pos positive]
            exact .fixed ⟨low, unbounded⟩ capped positive
          · rw [if_neg positive]
            refine .none ⟨low, unbounded⟩ capped ?_
            rw [Duration.lt_iff, Duration.zero_microseconds] at positive
            rw [Duration.le_iff, Duration.zero_microseconds] at nonnegative
            rw [Duration.eq_iff, Duration.zero_microseconds]
            omega

theorem Shaped.smallestDelay_nonneg {mode : DelayMode} (shaped : settings.Shaped mode) :
    0 ≤ settings.smallestDelay.microseconds := by
  unfold smallestDelay
  cases shaped with
  | none unbounded capless nothing =>
      rw [unbounded.1, Option.getD_none, nothing, Duration.zero_microseconds]
  | fixed unbounded capless positive =>
      rw [Duration.lt_iff, Duration.zero_microseconds] at positive
      rw [unbounded.1, Option.getD_none]
      exact positive.le
  | random low high bounded positive increasing =>
      rw [Duration.lt_iff, Duration.zero_microseconds] at positive
      rw [bounded.1, Option.getD_some]
      exact positive.le
  | backoff cap unbounded capped positive increasing =>
      rw [Duration.lt_iff, Duration.zero_microseconds] at positive
      rw [unbounded.1, Option.getD_none]
      exact positive.le

/-- The settings make do with numbers between their least and their greatest delay. -/
structure Spans (settings : Settings) (base : Binary64) : Prop where
  finite : base.isFinite = true
  least : settings.smallestDelay.toSeconds.value ≤ base.value
  most : base.value ≤ settings.longestDelay.toSeconds.value

theorem Spans.nonneg {base : Binary64} (spans : settings.Spans base)
    (consistent : settings.Consistent) : 0 ≤ base.value :=
  le_trans (Duration.toSeconds_nonneg consistent.shaped.smallestDelay_nonneg) spans.least

theorem Spans.le {base : Binary64} (spans : settings.Spans base) :
    base.value ≤ 86400000000000 :=
  le_trans spans.most settings.longestDelay.toSeconds_le

end Settings

namespace Delay

open RandomSource Binary64 Duration

variable {ρ : Type} [RandomSource ρ]
variable {power : Power} {settings : Settings} {source : ρ}

/-! ## A number between two others -/

theorem uniform_value {low high : Binary64} (within : WithinUnit source)
    (lowFinite : low.isFinite = true) (highFinite : high.isFinite = true)
    (lowBounded : |low.value| ≤ 2 ^ 48) (highBounded : |high.value| ≤ 2 ^ 48) :
    (uniform low high source).1.isFinite = true ∧
      (uniform low high source).1.value =
        nearest (low.value +
          nearest (nearest (high.value - low.value) * (number 0 source).value)) := by
  obtain ⟨numberFinite, least, most⟩ := within.first
  rw [← number_zero] at numberFinite least most
  have large : (2 : ℚ) ^ 50 ≤ 2 ^ 100 := by norm_num
  have width : |high.value - low.value| ≤ ((2 ^ 49 : ℤ) : ℚ) := by
    have triangle := abs_sub high.value low.value
    push_cast
    linarith
  have widthBounded := abs_nearest_le (by norm_num) width
  obtain ⟨widthFinite, widthValue⟩ :=
    sub_value highFinite lowFinite (by push_cast at width; linarith)
  have part : |nearest (high.value - low.value) * (number 0 source).value| ≤
      ((2 ^ 49 : ℤ) : ℚ) := by
    rw [abs_mul, abs_of_nonneg least]
    exact (mul_le_of_le_one_right (abs_nonneg _) most.le).trans widthBounded
  have partBounded := abs_nearest_le (by norm_num) part
  rw [← widthValue] at part
  obtain ⟨partFinite, partValue⟩ :=
    mul_value widthFinite numberFinite (by push_cast at part; linarith)
  rw [widthValue] at partValue
  rw [← partValue] at partBounded
  have sum : |low.value + ((high - low) * number 0 source).value| ≤ 2 ^ 100 := by
    have triangle := abs_add_le low.value ((high - low) * number 0 source).value
    push_cast at partBounded
    linarith
  obtain ⟨sumFinite, sumValue⟩ := add_value lowFinite partFinite sum
  rw [partValue] at sumValue
  rw [uniform_eq]
  exact ⟨sumFinite, sumValue⟩

/-- A move drawn for a spread is not greater than the spread. -/
theorem abs_uniform_neg_le {spread : Binary64} (within : WithinUnit source)
    (finite : spread.isFinite = true) (nonnegative : 0 ≤ spread.value)
    (bounded : spread.value ≤ 2 ^ 48) :
    (uniform (-spread) spread source).1.isFinite = true ∧
      |(uniform (-spread) spread source).1.value| ≤ spread.value := by
  obtain ⟨-, least, most⟩ := within.first
  rw [← number_zero] at least most
  have mirrored : |(-spread).value| ≤ 2 ^ 48 := by
    rw [neg_value, abs_neg, abs_of_nonneg nonnegative]
    exact bounded
  have straight : |spread.value| ≤ 2 ^ 48 := by
    rw [abs_of_nonneg nonnegative]
    exact bounded
  have mirroredFinite : (-spread).isFinite = true := by rw [neg_isFinite, finite]
  obtain ⟨moveFinite, moveValue⟩ :=
    uniform_value within mirroredFinite finite mirrored straight
  refine ⟨moveFinite, ?_⟩
  rw [moveValue, neg_value]
  have width : nearest (spread.value - -spread.value) = 2 * spread.value := by
    rw [sub_neg_eq_add, ← two_mul, nearest_double]
  rw [width]
  have double : 0 ≤ 2 * spread.value := mul_nonneg (by norm_num) nonnegative
  have partLow : 0 ≤ 2 * spread.value * (number 0 source).value := mul_nonneg double least
  have partHigh : 2 * spread.value * (number 0 source).value ≤ 2 * spread.value :=
    mul_le_of_le_one_right double most.le
  have low := nearest_nonneg partLow
  have high := nearest_mono partHigh
  rw [nearest_double] at high
  generalize nearest (2 * spread.value * (number 0 source).value) = part at *
  have above : -spread.value ≤ -spread.value + part := by linarith
  have below : -spread.value + part ≤ spread.value := by linarith
  have kept := nearest_mono above
  rw [nearest_neg, nearest_value] at kept
  exact abs_le.mpr ⟨kept, nearest_le_value below⟩

/-! ## The delay of the mode -/

theorem raised?_eq_some {factor raised : Binary64} {exponent : ℤ}
    (found : raised? power factor exponent = some raised) :
    (ofInt exponent).isFinite = true ∧ raised = power factor (ofInt exponent) := by
  unfold raised? at found
  dsimp only at found
  split at found
  · cases found
  · rename_i finite
    rw [Bool.not_eq_true, Bool.not_eq_false'] at finite
    split at found
    · cases found
    · exact ⟨finite, (Option.some.inj found).symm⟩

theorem raised?_atLeast {factor raised : Binary64} {exponent : ℤ} (growing : power.Growing)
    (above : ofInt 1 < factor) (nonnegative : 0 ≤ exponent)
    (found : raised? power factor exponent = some raised) : raised.AtLeast 1 := by
  obtain ⟨finite, made⟩ := raised?_eq_some found
  have least := growing factor (ofInt exponent) above (ofInt_zero_le nonnegative finite)
  rw [made]
  exact atLeast_one_of_le least

theorem backoffSeconds_bounds {delay cap factor : Binary64} (growing : power.Growing)
    (above : ofInt 1 < factor) (delayFinite : delay.isFinite = true)
    (capFinite : cap.isFinite = true) (positive : 0 < delay.value)
    (ordered : delay.value ≤ cap.value) (attemptNumber : ℤ) :
    (backoffSeconds power delay cap factor attemptNumber).isFinite = true ∧
      delay.value ≤ (backoffSeconds power delay cap factor attemptNumber).value ∧
      (backoffSeconds power delay cap factor attemptNumber).value ≤ cap.value := by
  unfold backoffSeconds
  cases found : raised? power factor (max (attemptNumber - 1) 0) with
  | none =>
      rw [Option.map_none, Option.getD_none]
      exact ⟨capFinite, ordered, le_rfl⟩
  | some raised =>
      have grown := raised?_atLeast growing above (le_max_right _ _) found
      rw [Option.map_some, Option.getD_some]
      exact (AtLeast.mul delayFinite positive grown).smaller capFinite ordered

theorem randomSeconds_bounds {low high : Duration} (within : WithinUnit source)
    (ordered : low.microseconds ≤ high.microseconds) :
    (randomSeconds low.toSeconds high.toSeconds source).1.isFinite = true ∧
      low.toSeconds.value ≤ (randomSeconds low.toSeconds high.toSeconds source).1.value ∧
      (randomSeconds low.toSeconds high.toSeconds source).1.value ≤ high.toSeconds.value := by
  have larger : (2 : ℚ) ^ 47 ≤ 2 ^ 48 := by norm_num
  have lowFinite := low.toSeconds_value.1
  have highFinite := high.toSeconds_value.1
  have drawn := (uniform_value within lowFinite highFinite
    (low.abs_toSeconds_le.trans larger) (high.abs_toSeconds_le.trans larger)).1
  have number : (uniform low.toSeconds high.toSeconds source).1.isNaN = false := by
    cases made : (uniform low.toSeconds high.toSeconds source).1 with
    | nan => rw [made] at drawn; cases drawn
    | infinite negative => rfl
    | finite negative mantissa shift canonical => rfl
  rw [randomSeconds_eq]
  exact clamp_bounds number lowFinite highFinite (Duration.toSeconds_mono ordered)

/-- Whatever the mode, its delay lies between the least and the greatest one. -/
theorem baseSeconds_spans (consistent : settings.Consistent) (growing : power.Growing)
    (within : WithinUnit source) (attemptNumber : ℤ) :
    settings.Spans (baseSeconds power settings attemptNumber source).1 := by
  have shaped := consistent.shaped
  generalize mode : settings.delayMode = chosen at shaped
  cases shaped with
  | none unbounded capless nothing =>
      have smallest : settings.smallestDelay = .zero := by
        rw [Settings.smallestDelay, unbounded.1, Option.getD_none, nothing]
      have longest : settings.longestDelay = .zero := by
        rw [Settings.longestDelay, unbounded.2, capless, Option.getD_none, Option.getD_none,
          nothing]
      have nothing : Duration.zero.toSeconds.value = 0 := Duration.zero_toSeconds
      rw [baseSeconds_of_none mode]
      refine ⟨rfl, ?_, ?_⟩
      · rw [smallest, nothing, zero_value]
      · rw [longest, nothing, zero_value]
  | fixed unbounded capless positive =>
      have smallest : settings.smallestDelay = settings.delay := by
        rw [Settings.smallestDelay, unbounded.1, Option.getD_none]
      have longest : settings.longestDelay = settings.delay := by
        rw [Settings.longestDelay, unbounded.2, capless, Option.getD_none, Option.getD_none]
      rw [baseSeconds_of_fixed mode]
      refine ⟨settings.delay.toSeconds_value.1, ?_, ?_⟩
      · rw [smallest]
      · rw [longest]
  | random low high bounded positive increasing =>
      have smallest : settings.smallestDelay = low := by
        rw [Settings.smallestDelay, bounded.1, Option.getD_some]
      have longest : settings.longestDelay = high := by
        rw [Settings.longestDelay, bounded.2, Option.getD_some]
      obtain ⟨finite, least, most⟩ := randomSeconds_bounds within (Int.le_of_lt increasing)
      rw [baseSeconds_of_random mode, bounded.1, bounded.2, Option.getD_some, Option.getD_some]
      refine ⟨finite, ?_, ?_⟩
      · rw [smallest]
        exact least
      · rw [longest]
        exact most
  | backoff cap unbounded capped positive increasing =>
      have smallest : settings.smallestDelay = settings.delay := by
        rw [Settings.smallestDelay, unbounded.1, Option.getD_none]
      have longest : settings.longestDelay = cap := by
        rw [Settings.longestDelay, unbounded.2, capped, Option.getD_none, Option.getD_some]
      obtain ⟨finite, least, most⟩ := backoffSeconds_bounds growing consistent.factor_above_one
        settings.delay.toSeconds_value.1 cap.toSeconds_value.1
        (Duration.toSeconds_pos positive) (Duration.toSeconds_mono (Int.le_of_lt increasing))
        attemptNumber
      rw [baseSeconds_of_backoff mode, capped, Option.getD_some]
      refine ⟨finite, ?_, ?_⟩
      · rw [smallest]
        exact least
      · rw [longest]
        exact most

end Delay
end Reattempt
