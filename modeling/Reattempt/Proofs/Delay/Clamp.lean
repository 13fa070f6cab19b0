import Mathlib.Tactic
import Reattempt.Proofs.Builder.Completeness
import Reattempt.Proofs.Delay.Seconds

/-!
# The clamp to a maximal duration

A delay is the lesser of the delay without a maximal duration and what the time elapsed leaves of
it. What is left is a difference of two rounded numbers of seconds. For limits of up to 76 years it
comes back as the exact difference of the durations, so that the delay never reaches beyond the
limit; for longer ones it can be off, by three parts in `2 ^ 53` of the limit and a microsecond at
most.
-/

set_option autoImplicit false

namespace Reattempt

namespace Binary64

/-- A difference is rounded three times: twice on the way in, once on the way out. -/
theorem nearest_sub_near {v w : ℚ} {i j k : ℕ} (first : |v| ≤ 2 ^ i) (second : |w| ≤ 2 ^ j)
    (apart : |nearest v - nearest w| ≤ 2 ^ k) :
    |nearest (nearest v - nearest w) - (v - w)| ≤ (2 ^ i + 2 ^ j + 2 ^ k) / 2 ^ 54 := by
  obtain ⟨firstLow, firstHigh⟩ := abs_le.mp (nearest_near first)
  obtain ⟨secondLow, secondHigh⟩ := abs_le.mp (nearest_near second)
  obtain ⟨apartLow, apartHigh⟩ := abs_le.mp (nearest_near apart)
  rw [add_div, add_div, abs_le]
  constructor <;> linarith

end Binary64

namespace Duration

open Binary64

/-- What the clamp leaves of a limit after some time, in microseconds. -/
def remaining (limit elapsed : Duration) : ℤ :=
  microsecondsOf (Delay.remainingSeconds limit elapsed)

variable {limit elapsed : Duration}

theorem inSeconds_mono (ordered : elapsed ≤ limit) : elapsed.inSeconds ≤ limit.inSeconds := by
  have ordered' : (elapsed.microseconds : ℚ) ≤ limit.microseconds := by exact_mod_cast ordered
  exact div_le_div_of_nonneg_right ordered' (by norm_num)

theorem inSeconds_nonneg (started : .zero ≤ elapsed) : 0 ≤ elapsed.inSeconds := by
  have ordered := inSeconds_mono started
  simpa [inSeconds] using ordered

/-- While the limit lasts, what is left is not below zero and nothing has to be made up for. -/
theorem remainingSeconds_of_early (early : elapsed ≤ limit) :
    0 ≤ (Delay.remainingSeconds limit elapsed).value ∧
      (Delay.remainingSeconds limit elapsed).value =
        nearest (nearest limit.inSeconds - nearest elapsed.inSeconds) := by
  have ordered := nearest_mono (inSeconds_mono early)
  have nonnegative : 0 ≤ nearest (nearest limit.inSeconds - nearest elapsed.inSeconds) :=
    nearest_nonneg (by linarith)
  have worth := (Delay.remainingSeconds_value limit elapsed).2
  rw [limit.toSeconds_value.2, elapsed.toSeconds_value.2, max_eq_left nonnegative] at worth
  rw [worth]
  exact ⟨nonnegative, rfl⟩

theorem inSeconds_sub :
    (limit.inSeconds - elapsed.inSeconds) * 10 ^ 6 =
      ((limit.microseconds - elapsed.microseconds : ℤ) : ℚ) := by
  unfold inSeconds
  push_cast
  field_simp

/-- A power of two that a number of seconds does not exceed and that is not far above it. -/
theorem exists_pow_near {v : ℚ} (nonnegative : 0 ≤ v) : ∃ k : ℕ, v ≤ 2 ^ k ∧ 2 ^ k ≤ 2 * v + 1 := by
  refine ⟨Nat.clog 2 ⌈v⌉₊, ?_, ?_⟩
  · have above := Nat.le_pow_clog one_lt_two ⌈v⌉₊
    have above' : ((⌈v⌉₊ : ℕ) : ℚ) ≤ 2 ^ Nat.clog 2 ⌈v⌉₊ := by exact_mod_cast above
    exact (Nat.le_ceil v).trans above'
  · by_cases small : ⌈v⌉₊ ≤ 1
    · rw [Nat.clog_of_right_le_one small, pow_zero]
      linarith
    · have large : 1 < ⌈v⌉₊ := not_le.mp small
      have below := Nat.lt_ceil.mp (Nat.pow_pred_clog_lt_self one_lt_two large)
      obtain ⟨k, known⟩ := Nat.exists_eq_succ_of_ne_zero (Nat.clog_pos one_lt_two large).ne'
      rw [known, Nat.pred_succ] at below
      push_cast at below
      rw [known, pow_succ]
      linarith

/-- What is left is off by at most three roundings and the one to a microsecond. -/
theorem remaining_near (started : .zero ≤ elapsed) (early : elapsed ≤ limit) :
    |(remaining limit elapsed : ℚ) - ((limit.microseconds - elapsed.microseconds : ℤ) : ℚ)| ≤
      3 * limit.microseconds / 2 ^ 53 + 1 := by
  have low := inSeconds_nonneg started
  have high := inSeconds_mono early
  obtain ⟨k, above, tight⟩ := exists_pow_near (low.trans high)
  obtain ⟨nonnegative, worth⟩ := remainingSeconds_of_early early
  have finite := (Delay.remainingSeconds_value limit elapsed).1
  have first : |limit.inSeconds| ≤ 2 ^ k := by rwa [abs_of_nonneg (low.trans high)]
  have second : |elapsed.inSeconds| ≤ 2 ^ k := by
    rw [abs_of_nonneg low]
    exact high.trans above
  have apart : |nearest limit.inSeconds - nearest elapsed.inSeconds| ≤ 2 ^ k := by
    have ordered := nearest_mono high
    have least := nearest_nonneg low
    have most := nearest_mono above
    rw [nearest_two_pow] at most
    rw [abs_of_nonneg (by linarith)]
    linarith
  have near := nearest_sub_near first second apart
  have whole := microsecondsOf_near finite nonnegative
  rw [← worth] at near
  change |(remaining limit elapsed : ℚ) - _| ≤ _ at whole
  obtain ⟨nearLow, nearHigh⟩ := abs_le.mp near
  obtain ⟨wholeLow, wholeHigh⟩ := abs_le.mp whole
  have size : limit.inSeconds * 10 ^ 6 = limit.microseconds := by
    unfold inSeconds
    field_simp
  rw [← inSeconds_sub, ← size, abs_le]
  constructor <;> linarith

theorem remaining_eq_of_near (early : elapsed ≤ limit) {error : ℚ}
    (near : |nearest (nearest limit.inSeconds - nearest elapsed.inSeconds) -
      (limit.inSeconds - elapsed.inSeconds)| ≤ error)
    (small : error * 10 ^ 6 < 1 / 2 - 2 ^ 20 / 2 ^ 54) :
    remaining limit elapsed = limit.microseconds - elapsed.microseconds := by
  obtain ⟨nonnegative, worth⟩ := remainingSeconds_of_early early
  refine microsecondsOf_eq_of_near (Delay.remainingSeconds_value limit elapsed).1 nonnegative ?_
  rw [← inSeconds_sub, ← sub_mul, worth, abs_mul, abs_of_pos (by norm_num : (0 : ℚ) < 10 ^ 6)]
  exact lt_of_le_of_lt (mul_le_mul_of_nonneg_right near (by norm_num)) small

/-- Up to `2 ^ 31 + 2 ^ 28` seconds, the three roundings together stay below half a microsecond. -/
theorem remaining_eq (started : .zero ≤ elapsed) (early : elapsed ≤ limit)
    (short : limit.microseconds ≤ 2415919104000000) :
    remaining limit elapsed = limit.microseconds - elapsed.microseconds := by
  have low := inSeconds_nonneg started
  have high := inSeconds_mono early
  have ordered := nearest_mono high
  have least := nearest_nonneg low
  have short' : limit.inSeconds ≤ ((2 ^ 31 + 2 ^ 28 : ℤ) : ℚ) := by
    have cast : (limit.microseconds : ℚ) ≤ 2415919104000000 := by exact_mod_cast short
    unfold inSeconds
    push_cast
    linarith
  have most := nearest_le_intCast (by norm_num) short'
  push_cast at short' most
  have first : |limit.inSeconds| ≤ 2 ^ 32 := by
    rw [abs_of_nonneg (low.trans high)]
    linarith
  -- the later it is, the coarser the seconds elapsed are, and the finer the difference is
  by_cases soon : elapsed.inSeconds ≤ 2 ^ 28
  · have second : |elapsed.inSeconds| ≤ 2 ^ 28 := by rwa [abs_of_nonneg low]
    have apart : |nearest limit.inSeconds - nearest elapsed.inSeconds| ≤ 2 ^ 32 := by
      rw [abs_of_nonneg (by linarith)]
      linarith
    exact remaining_eq_of_near early (nearest_sub_near first second apart) (by norm_num)
  · by_cases later : elapsed.inSeconds ≤ 2 ^ 31
    · have second : |elapsed.inSeconds| ≤ 2 ^ 31 := by rwa [abs_of_nonneg low]
      have from28 := nearest_mono (not_le.mp soon).le
      rw [nearest_two_pow] at from28
      have apart : |nearest limit.inSeconds - nearest elapsed.inSeconds| ≤ 2 ^ 31 := by
        rw [abs_of_nonneg (by linarith)]
        linarith
      exact remaining_eq_of_near early (nearest_sub_near first second apart) (by norm_num)
    · have second : |elapsed.inSeconds| ≤ 2 ^ 32 := by
        rw [abs_of_nonneg low]
        linarith
      have from31 := nearest_mono (not_le.mp later).le
      rw [nearest_two_pow] at from31
      have apart : |nearest limit.inSeconds - nearest elapsed.inSeconds| ≤ 2 ^ 28 := by
        rw [abs_of_nonneg (by linarith)]
        linarith
      exact remaining_eq_of_near early (nearest_sub_near first second apart) (by norm_num)

end Duration

namespace Delay

open RandomSource Binary64 Duration

variable {ρ : Type} [RandomSource ρ]
variable {power : Power} {settings : Settings} {history : History} {source : ρ}

theorem unclamped_withoutMaxDuration :
    unclamped power { settings with maxDuration := none } history source =
      unclamped power settings history source := by
  unfold unclamped jittered spread? baseSeconds Settings.delayMode
  dsimp only

/-- A delay is the lesser of the one without a maximal duration and what is left of it, which is
exact for limits of up to `2 ^ 31 + 2 ^ 28` seconds. -/
theorem compute_within_limit (policy : Policy) (power : Power) (history : History) (source : ρ)
    {limit delay : Duration} (growing : power.Growing) (within : WithinUnit (fresh source))
    (limited : policy.maxDuration = some limit) (started : .zero ≤ history.elapsed)
    (early : history.elapsed ≤ limit)
    (computed : (compute power policy.toSettings history source).1 = .ok delay) :
    .zero ≤ delay ∧
      delay.microseconds ≤ remaining limit history.elapsed ∧
      (∀ longer,
        (compute power { policy.toSettings with maxDuration := none } history source).1 =
            .ok longer →
          delay.microseconds = min longer.microseconds (remaining limit history.elapsed)) ∧
      (limit.microseconds ≤ 2415919104000000 →
        remaining limit history.elapsed =
          limit.microseconds - history.elapsed.microseconds) ∧
      |(remaining limit history.elapsed : ℚ) -
          ((limit.microseconds - history.elapsed.microseconds : ℤ) : ℚ)| ≤
        3 * limit.microseconds / 2 ^ 53 + 1 := by
  have consistent := Settings.policy_consistent policy
  have made := compute_eq_ok consistent growing within computed
  obtain ⟨moved, movedLeast, -⟩ := unclamped_bounds consistent growing within history
  obtain ⟨finite, worth⟩ := clamped_value history.elapsed limited moved
  obtain ⟨leftLeast, -⟩ := remainingSeconds_of_early early
  have left := (remainingSeconds_value limit history.elapsed).1
  rw [seconds_eq_clamped, microsecondsOf_min moved left finite movedLeast leftLeast worth] at made
  refine ⟨?_, ?_, ?_, remaining_eq started early, remaining_near started early⟩
  · exact compute_nonneg consistent growing within computed
  · rw [made]
    exact min_le_right _ _
  · intro longer unlimited
    have made' := compute_eq_ok consistent.withoutMaxDuration growing within unlimited
    have unbounded : (seconds power { policy.toSettings with maxDuration := none } history
        (fresh source)).1 = unclamped power policy.toSettings history (fresh source) := by
      rw [seconds_eq_clamped, unclamped_withoutMaxDuration]
      rfl
    rw [made, made', unbounded]
    rfl

/-! ## A short limit and a long one -/

def tenSeconds : Duration := ⟨10000000, by decide⟩

def tenSecondsPolicy : Policy :=
  ⟨{ delay := ⟨1000000, by decide⟩, maxDelay := some tenSeconds,
     jitterFactor := some (Binary64.ofRatio 1 2), maxDuration := some tenSeconds },
    by decide +kernel⟩

def lateHistory : History := { attemptNumber := 2, elapsed := ⟨8500000, by decide⟩ }

/-- The next delay would be two seconds, but a second and a half is left. -/
theorem compute_within_ten_seconds :
    let delay : Duration := ⟨1500000, by decide⟩
    let longer : Duration := ⟨2000000, by decide⟩
    Power.first.Growing ∧ WithinUnit (fresh halves) ∧
    tenSecondsPolicy.maxDuration = some tenSeconds ∧
    .zero ≤ lateHistory.elapsed ∧ lateHistory.elapsed ≤ tenSeconds ∧
    (compute Power.first tenSecondsPolicy.toSettings lateHistory halves).1 = .ok delay ∧
    (compute Power.first { tenSecondsPolicy.toSettings with maxDuration := none } lateHistory
      halves).1 = .ok longer ∧
    .zero ≤ delay ∧
    delay.microseconds = min longer.microseconds
      (tenSeconds.microseconds - lateHistory.elapsed.microseconds) := by
  intro delay longer
  have computed : (compute Power.first tenSecondsPolicy.toSettings lateHistory halves).1 =
      .ok delay := by decide +kernel
  have unlimited : (compute Power.first { tenSecondsPolicy.toSettings with maxDuration := none }
      lateHistory halves).1 = .ok longer := by decide +kernel
  obtain ⟨nonnegative, -, least, exact, -⟩ :=
    compute_within_limit tenSecondsPolicy Power.first lateHistory halves Power.first_growing
      withinUnit_halves rfl (by decide) (by decide) computed
  refine ⟨Power.first_growing, withinUnit_halves, rfl, by decide, by decide, computed, unlimited,
    nonnegative, ?_⟩
  rw [least longer unlimited, exact (by decide)]

def threeCenturies : Duration := ⟨9467280000000000, by decide⟩

def threeCenturiesPolicy : Policy :=
  ⟨{ delay := ⟨1000000, by decide⟩, maxDuration := some threeCenturies }, by decide +kernel⟩

/-- A microsecond before three centuries are over, two microseconds are said to be left. -/
theorem compute_exceeds_three_centuries :
    let history : History := { attemptNumber := 1, elapsed := ⟨9467279999999999, by decide⟩ }
    ∃ delay, threeCenturiesPolicy.maxDuration = some threeCenturies ∧
      .zero ≤ history.elapsed ∧ history.elapsed ≤ threeCenturies ∧
      (compute Power.first threeCenturiesPolicy.toSettings history halves).1 = .ok delay ∧
      threeCenturies.microseconds < history.elapsed.microseconds + delay.microseconds := by
  intro history
  refine ⟨⟨2, by decide⟩, rfl, by decide, by decide, by decide +kernel, by decide⟩

end Delay
end Reattempt
