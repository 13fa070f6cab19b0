import Mathlib.Tactic
import Reattempt.Proofs.Delay.Seconds

/-!
# Delays that are too long

The seconds of a delay are a number, but not each of them is a duration: from a thousand million
days on there is none (`compute_eq_ok_iff`). The longest durations are rounded up to that many
seconds, and jitter can move shorter ones there. A maximal duration of up to 999999999 days rules
this out, and so do delays that stay within it with their jitter (`seconds_lt_of_moderate`).
-/

set_option autoImplicit false

namespace Reattempt

namespace Duration

open Binary64

theorem microsecondsOf_le {x : Binary64} (finite : x.isFinite = true) (nonnegative : 0 ≤ x.value)
    (short : x.value < 86400000000000) : microsecondsOf x ≤ 86399999999999999999 := by
  have high := (abs_le.mp (microsecondsOf_near finite nonnegative)).2
  have below : (microsecondsOf x : ℚ) < 86400000000000000000 := by
    by_cases large : 2 ^ 46 ≤ x.value
    · -- the next smaller number is a whole sixty-fourth of a second away
      obtain ⟨count, worth⟩ := multiple_of_large large
      have fewer : (count : ℚ) < (86400000000000 * 2 ^ 6 : ℤ) := by
        rw [worth, div_lt_iff₀ (by norm_num)] at short
        exact_mod_cast short
      have step : count + 1 ≤ 86400000000000 * 2 ^ 6 := by exact_mod_cast fewer
      have step' : (count : ℚ) + 1 ≤ 86400000000000 * 2 ^ 6 := by exact_mod_cast step
      linarith
    · linarith
  have below' : microsecondsOf x < 86400000000000000000 := by exact_mod_cast below
  omega

theorem le_microsecondsOf {x : Binary64} (finite : x.isFinite = true)
    (long : 86400000000000 ≤ x.value) : 86400000000000000000 ≤ microsecondsOf x := by
  have low := (abs_le.mp (microsecondsOf_near finite (by linarith))).1
  have above : (86399999999999999999 : ℚ) < microsecondsOf x := by linarith
  have above' : 86399999999999999999 < microsecondsOf x := by exact_mod_cast above
  omega

theorem ofSeconds_eq_ok_iff {x : Binary64} (finite : x.isFinite = true)
    (nonnegative : 0 ≤ x.value) :
    (∃ duration, ofSeconds x = .ok duration) ↔ x.value < 86400000000000 := by
  rw [ofSeconds_of_finite finite]
  constructor
  · rintro ⟨duration, converted⟩
    by_contra long
    have many := le_microsecondsOf finite (not_lt.mp long)
    have few := duration.inRange.2
    rw [ofMicroseconds_eq_ok converted] at few
    omega
  · intro short
    have few := microsecondsOf_le finite nonnegative short
    have low := (abs_le.mp (microsecondsOf_near finite nonnegative)).1
    have above : (-1 : ℚ) < microsecondsOf x := by linarith
    have above' : -1 < microsecondsOf x := by exact_mod_cast above
    exact ⟨_, dif_pos ⟨by omega, few⟩⟩

theorem ofSeconds_eq_days {x : Binary64} (finite : x.isFinite = true)
    (long : 86400000000000 ≤ x.value) (bounded : x.value ≤ 172800000000000) :
    ∃ count : ℤ, 1000000000 ≤ count ∧ count ≤ 2000000000 ∧ ofSeconds x = .error (.days count) := by
  have many := le_microsecondsOf finite long
  have high := (abs_le.mp (microsecondsOf_near finite (by linarith))).2
  have below : (microsecondsOf x : ℚ) < 172800000000000000001 := by linarith
  have below' : microsecondsOf x < 172800000000000000001 := by exact_mod_cast below
  have days : (microsecondsOf x).fdiv perDay = microsecondsOf x / 86400000000 :=
    Int.fdiv_eq_ediv_of_nonneg _ (by decide)
  have outOfRange : ¬ (-86399999913600000000 ≤ microsecondsOf x ∧
      microsecondsOf x ≤ 86399999999999999999) := by omega
  refine ⟨microsecondsOf x / 86400000000, by omega, by omega, ?_⟩
  have word : -(Int.pow 2 31) ≤ microsecondsOf x / 86400000000 ∧
      microsecondsOf x / 86400000000 < Int.pow 2 31 := by
    have power : Int.pow 2 31 = 2147483648 := by decide
    omega
  rw [ofSeconds_of_finite finite, ofMicroseconds, dif_neg outOfRange]
  simp only [days]
  rw [if_pos word]

end Duration

namespace Settings

def longestJitter (settings : Settings) : ℚ :=
  match settings.jitterFactor with
  | some factor => settings.longestDelay.inSeconds * factor.value
  | none => (settings.jitter.map Duration.inSeconds).getD 0

/-- No delay of the settings comes near a thousand million days. -/
def Moderate (settings : Settings) : Prop :=
  (∃ limit ∈ settings.maxDuration, limit.microseconds ≤ 86399999913600000000) ∨
    settings.longestDelay.inSeconds + settings.longestJitter ≤ 86399999913600

end Settings

namespace Delay

open RandomSource Binary64 Duration

variable {ρ : Type} [RandomSource ρ]
variable {power : Power} {settings : Settings} {source : ρ} {history : History}

theorem compute_eq_ok_iff (consistent : settings.Consistent) (growing : power.Growing)
    (within : WithinUnit (fresh source)) :
    (∃ delay, (compute power settings history source).1 = .ok delay) ↔
      (seconds power settings history (fresh source)).1.value < 86400000000000 := by
  obtain ⟨finite, nonnegative, -⟩ := seconds_bounds consistent growing within history
  rw [compute_fst]
  exact ofSeconds_eq_ok_iff finite nonnegative

theorem compute_eq_days (consistent : settings.Consistent) (growing : power.Growing)
    (within : WithinUnit (fresh source))
    (long : 86400000000000 ≤ (seconds power settings history (fresh source)).1.value) :
    ∃ count : ℤ, 1000000000 ≤ count ∧ count ≤ 2000000000 ∧
      (compute power settings history source).1 = .error (.days count) := by
  obtain ⟨finite, -, bounded⟩ := seconds_bounds consistent growing within history
  rw [compute_fst]
  exact ofSeconds_eq_days finite long bounded

/-! ## Moderate settings -/

theorem toSeconds_le_inSeconds (duration : Duration) :
    duration.toSeconds.value ≤ duration.inSeconds + 1 / 2 ^ 7 := by
  have near := (abs_le.mp (nearest_near duration.abs_inSeconds_lt.le)).2
  rw [duration.toSeconds_value.2]
  linarith

theorem spreadValue_le {base : Binary64} (consistent : settings.Consistent)
    (spans : settings.Spans base) :
    spreadValue settings base ≤ settings.longestJitter + 1 / 2 ^ 6 := by
  have nonnegative := spans.nonneg consistent
  unfold spreadValue spread? Settings.longestJitter
  cases set : settings.jitterFactor with
  | none =>
      dsimp only
      cases settings.jitter with
      | none =>
          rw [Option.map_none, Option.map_none, Option.map_none, Option.getD_none]
          norm_num
      | some jitter =>
          have near := toSeconds_le_inSeconds jitter
          rw [Option.map_some, Option.map_some, Option.map_some, Option.getD_some, Option.getD_some]
          linarith
  | some factor =>
      obtain ⟨least, most⟩ := consistent.jitterFactor_within_one factor set
      obtain ⟨finite, low, high⟩ := finite_of_within_one least most
      have longest := spans.most.trans (toSeconds_le_inSeconds settings.longestDelay)
      have part : base.value * factor.value ≤
          settings.longestDelay.inSeconds * factor.value + 1 / 2 ^ 7 := by
        calc base.value * factor.value
            ≤ (settings.longestDelay.inSeconds + 1 / 2 ^ 7) * factor.value :=
              mul_le_mul_of_nonneg_right longest low
          _ = settings.longestDelay.inSeconds * factor.value + 1 / 2 ^ 7 * factor.value :=
              add_mul _ _ _
          _ ≤ settings.longestDelay.inSeconds * factor.value + 1 / 2 ^ 7 := by linarith
      have bounded : |base.value * factor.value| ≤ 2 ^ 47 := by
        rw [abs_of_nonneg (mul_nonneg nonnegative low)]
        exact (mul_le_of_le_one_right nonnegative high).trans (spans.le.trans (by norm_num))
      have near := (abs_le.mp (nearest_near bounded)).2
      have moderate : |base.value * factor.value| ≤ 2 ^ 100 :=
        bounded.trans (by norm_num)
      dsimp only
      rw [Option.map_some, Option.getD_some, (mul_value spans.finite finite moderate).2]
      linarith

/-- Before the clamp a delay exceeds the greatest one with its jitter only by rounding. -/
theorem unclamped_le (consistent : settings.Consistent) (growing : power.Growing)
    (within : WithinUnit source) (history : History) :
    (unclamped power settings history source).value ≤
      settings.longestDelay.inSeconds + settings.longestJitter + 3 / 64 := by
  obtain ⟨-, -, base, spans, most⟩ := unclamped_bounds consistent growing within history
  obtain ⟨least, moved⟩ := spreadValue_bounds consistent spans
  have nonnegative := spans.nonneg consistent
  have spread := spreadValue_le consistent spans
  have longest := spans.most.trans (toSeconds_le_inSeconds settings.longestDelay)
  have bounded : |base.value + spreadValue settings base| ≤ 2 ^ 48 := by
    have short := spans.le
    rw [abs_of_nonneg (add_nonneg nonnegative least)]
    linarith
  have near := (abs_le.mp (nearest_near bounded)).2
  linarith

/-- Moderate settings never give a delay that is no duration. -/
theorem seconds_lt_of_moderate (consistent : settings.Consistent) (growing : power.Growing)
    (within : WithinUnit source) (started : .zero ≤ history.elapsed)
    (moderate : settings.Moderate) :
    (seconds power settings history source).1.value < 86400000000000 := by
  obtain ⟨finite, nonnegative, -⟩ := unclamped_bounds consistent growing within history
  rw [seconds_eq_clamped]
  rcases moderate with ⟨limit, limited, short⟩ | short
  · have worth := (clamped_value history.elapsed limited finite).2
    have lowest := min_le_right (unclamped power settings history source).value
      (remainingSeconds limit history.elapsed).value
    have elapsed := toSeconds_nonneg started
    have difference : limit.toSeconds.value - history.elapsed.toSeconds.value ≤
        limit.toSeconds.value := by linarith
    have kept := nearest_le_value difference
    have limitBounded : limit.inSeconds ≤ ((86399999913600 : ℤ) : ℚ) := by
      have cast : (limit.microseconds : ℚ) ≤ 86399999913600000000 := by exact_mod_cast short
      unfold inSeconds
      push_cast
      linarith
    have bounded := nearest_le_intCast (by norm_num) limitBounded
    rw [← limit.toSeconds_value.2] at bounded
    push_cast at bounded
    have left : (remainingSeconds limit history.elapsed).value ≤ 86399999913600 := by
      rw [(remainingSeconds_value limit history.elapsed).2]
      exact max_le (by linarith) (by norm_num)
    rw [worth]
    linarith
  · have lowered := (clamped_bounds settings history.elapsed finite nonnegative).2.2
    have most := unclamped_le consistent growing within history
    linarith

/-- A delay exceeds the greatest one with its jitter by less than a sixteenth of a second. -/
theorem compute_le {delay : Duration} (consistent : settings.Consistent)
    (growing : power.Growing) (within : WithinUnit (fresh source))
    (computed : (compute power settings history source).1 = .ok delay) :
    delay.inSeconds ≤ settings.longestDelay.inSeconds + settings.longestJitter + 1 / 16 := by
  obtain ⟨finite, nonnegative, -⟩ := seconds_bounds consistent growing within history
  obtain ⟨unclampedFinite, unclampedLeast, -⟩ :=
    unclamped_bounds consistent growing within history
  have lowered := (clamped_bounds settings history.elapsed unclampedFinite unclampedLeast).2.2
  rw [← seconds_eq_clamped] at lowered
  have most := unclamped_le consistent growing within history
  have near := (abs_le.mp (microsecondsOf_near finite nonnegative)).2
  rw [inSeconds, compute_eq_ok consistent growing within computed]
  linarith

end Delay
end Reattempt
