import Mathlib.Tactic
import Reattempt.Proofs.Decimal.Limit
import Reattempt.Proofs.Decision.Draws
import Reattempt.Proofs.Decision.Totality
import Reattempt.Proofs.Decision.Verdicts
import Reattempt.Proofs.Duration.Overflow
import Reattempt.Proofs.Preview.Course

/-!
# When a preview is completed

If neither conditions nor handlers interfere and its failures are no more than can be noted, a
preview breaks off for one reason only: a time is
beyond the greatest duration, be it the end of an attempt, a delay, or the end of a delay. It is
completed exactly if its course does not come to such a place (`simulate_breaks_or_completes`).
-/

set_option autoImplicit false

namespace Reattempt

theorem Verdict.shouldRetry_iff (verdict : Verdict) :
    verdict.shouldRetry = true ↔ ∃ delay, verdict = .retry delay := by
  cases verdict <;> simp [shouldRetry]

/-- The delay of settings at its longest, jitter and rounding included, in seconds. -/
def Settings.delayBound (settings : Settings) : ℚ :=
  settings.longestDelay.inSeconds + settings.longestJitter + 1 / 16

namespace Preview

open RandomSource

variable {γ : Type} [Generator γ] {policy : Policy} {power : Power} {attemptTime : Duration}
variable {source drawn : Shared γ} {earlier verdicts : List Verdict} {verdict : Verdict}
variable {history : History} {elapsed now : Duration} {failures : Nat}

structure Steady (policy : Policy) (power : Power) (attemptTime : Duration) (source : Shared γ) :
    Prop where
  handlers : policy.handlers.Quiet
  conditions : ∀ condition ∈ policy.abortConditions,
    condition.Quiet .null (some simulatedFailure)
  growing : power.Growing
  within : WithinUnit source
  notNegative : 0 ≤ attemptTime.microseconds

/-- What breaks a preview off after these verdicts: the next attempt ends too late, its delay is too
long, or that delay ends too late. -/
inductive Breaks (policy : Policy) (power : Power) (attemptTime : Duration)
    (earlier : List Verdict) (left : Shared γ) : Prop
  | attempt (late : 86399999999999999999 <
      (earlier.length + 1) * attemptTime.microseconds + waited earlier)
  | delay {history : History} (tells : Tells attemptTime earlier history)
      (overruns : policy.Overruns power history simulatedOutcome left)
  | pause {history : History} {delay : Duration} (tells : Tells attemptTime earlier history)
      (decided : (policy.evaluate power history simulatedOutcome left).verdict =
        .ok (.retry delay))
      (late : 86399999999999999999 <
        (earlier.length + 1) * attemptTime.microseconds + waited earlier + delay.microseconds)

def BreaksOff (policy : Policy) (power : Power) (attemptTime : Duration) (source : Shared γ)
    (earlier : List Verdict) (failures : Nat) : Prop :=
  ∃ rest left, rest.length < failures ∧
    Course policy power attemptTime source (earlier ++ rest) left ∧
    (∀ verdict ∈ rest, verdict.shouldRetry = true) ∧
    Breaks policy power attemptTime (earlier ++ rest) left

/-! ## Courses of steady previews -/

theorem Course.within (steady : Steady policy power attemptTime source)
    (course : Course policy power attemptTime source verdicts drawn) : WithinUnit drawn := by
  induction course with
  | start => exact steady.within
  | @next earlier verdict history left course tells decided ih =>
      rw [Policy.evaluate_source decided]
      split
      · exact ih.advanced policy.draws
      · exact ih

theorem Course.delay_nonneg (steady : Steady policy power attemptTime source)
    (course : Course policy power attemptTime source earlier drawn)
    (decided : (policy.evaluate power history simulatedOutcome drawn).verdict = .ok verdict) :
    0 ≤ verdict.delay.microseconds := by
  cases verdict with
  | retry delay =>
      exact Delay.compute_nonneg (Settings.policy_consistent policy) steady.growing
        (course.within steady) (Policy.delay_of_evaluate decided)
  | succeed => exact le_rfl
  | abort => exact le_rfl
  | retriesExceeded => exact le_rfl

theorem Course.waited_nonneg (steady : Steady policy power attemptTime source)
    (course : Course policy power attemptTime source verdicts drawn) : 0 ≤ waited verdicts := by
  induction course with
  | start => exact le_rfl
  | @next earlier verdict history left course tells decided ih =>
      have delayed := course.delay_nonneg steady decided
      rw [waited_append, waited_cons, waited_nil]
      omega

/-! ## One more failure -/

theorem simulateFrom_raised {raised : Failure} (passed : elapsed.add attemptTime = .ok now)
    (interrupted : (decision policy power history now drawn).verdict = .error raised) :
    (simulateFrom policy power (.ok attemptTime) (failures + 1) history elapsed drawn).verdicts =
      .error raised := by
  rw [simulateFrom_succ passed, interrupted]

theorem simulateFrom_unpaused {delay : Duration} {error : Duration.RangeError}
    (passed : elapsed.add attemptTime = .ok now)
    (reached : (decision policy power history now drawn).verdict = .ok (.retry delay))
    (late : now.add delay = .error error) :
    ∃ failure, (simulateFrom policy power (.ok attemptTime) (failures + 1) history elapsed
        drawn).verdicts = .error failure ∧ failure.kind = .overflowError := by
  simp only [simulateFrom_succ passed, reached, Verdict.isComplete, Verdict.shouldRetry,
    Bool.not_true, Bool.false_eq_true, if_false, Verdict.delay, History.recordDelay, late]
  cases summed : (history.record simulatedOutcome now).totalDelay.add delay with
  | error sumError =>
      exact ⟨_, rfl, Duration.ofMicroseconds_overflows summed⟩
  | ok total =>
      exact ⟨_, rfl, Duration.ofMicroseconds_overflows late⟩

section Stand

variable (steady : Steady policy power attemptTime source)
  (stands : StandsAfter policy power attemptTime source earlier history elapsed drawn)

include steady stands

/-- Where a preview breaks off, it ends with an overflow. -/
theorem simulateFrom_of_breaks (breaks : Breaks policy power attemptTime earlier drawn) :
    ∃ failure, (simulateFrom policy power (.ok attemptTime) (failures + 1) history elapsed
        drawn).verdicts = .error failure ∧ failure.kind = .overflowError := by
  cases passed : elapsed.add attemptTime with
  | error error =>
      exact ⟨_, simulateFrom_unpassed passed,
        Duration.ofMicroseconds_overflows passed⟩
  | ok now =>
      have tells := stands.tells passed
      have measured : now.microseconds =
        (earlier.length + 1) * attemptTime.microseconds + waited earlier := tells.elapsed
      cases breaks with
      | attempt late =>
          have greatest := now.inRange.2
          omega
      | delay tellsToo overruns =>
          cases tells.unique tellsToo
          obtain ⟨count, -, -, raised⟩ := Policy.evaluate_of_overruns steady.growing
            (stands.course.within steady) (Policy.tells_of_quiet steady.handlers _) overruns
          exact ⟨_, simulateFrom_raised passed raised, rfl⟩
      | pause tellsToo decided late =>
          cases tells.unique tellsToo
          rw [← measured] at late
          obtain ⟨error, beyond, -⟩ := Duration.add_of_late late
          exact simulateFrom_unpaused passed decided beyond

/-- Elsewhere it comes to a verdict, and if that is a retry, through its delay. -/
theorem goesOn_of_not_breaks (clear : ¬ Breaks policy power attemptTime earlier drawn)
    (writable : Decimal.isWritable (earlier.length + 1 : ℕ) = true) :
    ∃ now verdict, elapsed.add attemptTime = .ok now ∧
      (decision policy power history now drawn).verdict = .ok verdict ∧
      ∀ delay, verdict = .retry delay → ∃ waiting later,
        (history.record simulatedOutcome now).recordDelay delay = .ok waiting ∧
        now.add delay = .ok later := by
  have waitedBefore := stands.course.waited_nonneg steady
  have attempted : 0 ≤ (earlier.length : ℤ) * attemptTime.microseconds :=
    mul_nonneg (Int.natCast_nonneg _) steady.notNegative
  have oneMore : ((earlier.length : ℤ) + 1) * attemptTime.microseconds =
      earlier.length * attemptTime.microseconds + attemptTime.microseconds := by ring
  have atOnce := steady.notNegative
  have measured := stands.elapsed
  cases passed : elapsed.add attemptTime with
  | error error =>
      refine absurd (Breaks.attempt ?_) clear
      have late := Duration.late_of_add (by omega) passed
      omega
  | ok now =>
      have tells := stands.tells passed
      have measuredNow : now.microseconds =
        (earlier.length + 1) * attemptTime.microseconds + waited earlier := tells.elapsed
      have inTime : ¬ policy.Overruns power (history.record simulatedOutcome now) simulatedOutcome
          drawn := fun overruns => clear (.delay tells overruns)
      have noted : Decimal.isWritable
          (history.record simulatedOutcome now).attemptNumber = true := by
        rw [tells.attemptNumber]
        exact_mod_cast writable
      obtain ⟨verdict, reached⟩ := Policy.evaluate_of_not_overruns steady.growing
        (stands.course.within steady) steady.handlers steady.conditions noted inTime
      refine ⟨now, verdict, rfl, reached, ?_⟩
      rintro delay rfl
      have delayed : 0 ≤ delay.microseconds := stands.course.delay_nonneg steady reached
      have notLate : ¬ 86399999999999999999 <
          (earlier.length + 1) * attemptTime.microseconds + waited earlier + delay.microseconds :=
        fun late => clear (.pause tells reached late)
      cases slept : now.add delay with
      | error error =>
          have late := Duration.late_of_add (by omega) slept
          omega
      | ok later =>
          have before : (history.record simulatedOutcome now).totalDelay.microseconds =
            waited earlier := tells.totalDelay
          cases summed : (history.record simulatedOutcome now).totalDelay.add delay with
          | error error =>
              -- the delays alone are no longer than the whole time
              have late := Duration.late_of_add (by omega) summed
              omega
          | ok total =>
              exact ⟨_, later, by rw [History.recordDelay, summed]; rfl, rfl⟩

end Stand

/-! ## All failures -/

theorem not_breaksOff_zero : ¬ BreaksOff policy power attemptTime source earlier 0 := by
  rintro ⟨rest, left, few, -⟩
  exact absurd few (Nat.not_lt_zero _)

theorem BreaksOff.here (course : Course policy power attemptTime source earlier drawn)
    (breaks : Breaks policy power attemptTime earlier drawn) :
    BreaksOff policy power attemptTime source earlier (failures + 1) :=
  ⟨[], drawn, Nat.succ_pos failures, by rwa [List.append_nil], by simp, by rwa [List.append_nil]⟩

theorem BreaksOff.before (goesOn : verdict.shouldRetry = true)
    (breaksOff : BreaksOff policy power attemptTime source (earlier ++ [verdict]) failures) :
    BreaksOff policy power attemptTime source earlier (failures + 1) := by
  obtain ⟨rest, left, few, course, retries, breaks⟩ := breaksOff
  rw [List.append_assoc, List.singleton_append] at course breaks
  exact ⟨verdict :: rest, left, Nat.succ_lt_succ few, course,
    List.forall_mem_cons.mpr ⟨goesOn, retries⟩, breaks⟩

/-- A preview that does not break off at once breaks off behind a retry, if at all. -/
theorem BreaksOff.beyond (course : Course policy power attemptTime source earlier drawn)
    (clear : ¬ Breaks policy power attemptTime earlier drawn)
    (tells : Tells attemptTime earlier history)
    (decided : (policy.evaluate power history simulatedOutcome drawn).verdict = .ok verdict)
    (breaksOff : BreaksOff policy power attemptTime source earlier (failures + 1)) :
    verdict.shouldRetry = true ∧
      BreaksOff policy power attemptTime source (earlier ++ [verdict]) failures := by
  obtain ⟨rest, left, few, ahead, retries, breaks⟩ := breaksOff
  cases rest with
  | nil =>
      rw [List.append_nil] at ahead breaks
      rw [← course.unique ahead] at breaks
      exact absurd breaks clear
  | cons next rest =>
      obtain ⟨historyThere, leftThere, courseThere, tellsThere, decidedThere⟩ :=
        ahead.decided_at rfl
      rw [← course.unique courseThere, ← tells.unique tellsThere, decided] at decidedThere
      cases decidedThere
      obtain ⟨goesOn, others⟩ := List.forall_mem_cons.mp retries
      rw [List.append_cons] at ahead breaks
      exact ⟨goesOn, rest, left, Nat.lt_of_succ_lt_succ few, ahead, others, breaks⟩

theorem simulateFrom_breaks_or_completes (steady : Steady policy power attemptTime source)
    (failures : Nat) :
    ∀ (earlier : List Verdict) (history : History) (elapsed : Duration) (drawn : Shared γ),
      StandsAfter policy power attemptTime source earlier history elapsed drawn →
      Decimal.isWritable (earlier.length + failures : ℕ) = true →
      (BreaksOff policy power attemptTime source earlier failures ∧
        ∃ failure, (simulateFrom policy power (.ok attemptTime) failures history elapsed
          drawn).verdicts = .error failure ∧ failure.kind = .overflowError) ∨
      (¬ BreaksOff policy power attemptTime source earlier failures ∧
        ∃ verdicts, (simulateFrom policy power (.ok attemptTime) failures history elapsed
          drawn).verdicts = .ok verdicts) := by
  induction failures with
  | zero => exact fun _ _ _ _ _ _ => Or.inr ⟨not_breaksOff_zero, [], rfl⟩
  | succ failures ih =>
      intro earlier history elapsed drawn stands writable
      have next : Decimal.isWritable (earlier.length + 1 : ℕ) = true :=
        Decimal.isWritable_of_le (by omega) writable
      by_cases breaks : Breaks policy power attemptTime earlier drawn
      · exact Or.inl ⟨.here stands.course breaks, simulateFrom_of_breaks steady stands breaks⟩
      · obtain ⟨now, verdict, passed, reached, goesOn⟩ :=
          goesOn_of_not_breaks steady stands breaks next
        have tells := stands.tells passed
        cases retries : verdict.shouldRetry with
        | false =>
            refine Or.inr ⟨fun breaksOff => ?_, _, simulateFrom_final passed reached retries⟩
            rw [(breaksOff.beyond stands.course breaks tells reached).1] at retries
            cases retries
        | true =>
            obtain ⟨delay, rfl⟩ := (Verdict.shouldRetry_iff verdict).mp retries
            obtain ⟨waiting, later, summed, slept⟩ := goesOn delay rfl
            rw [simulateFrom_retry passed reached summed slept]
            -- the preview breaks off here exactly if it does so behind this retry
            have others : Decimal.isWritable
                ((earlier ++ [Verdict.retry delay]).length + failures : ℕ) = true := by
              rw [List.length_append, List.length_singleton, Nat.add_assoc, Nat.add_comm 1]
              exact writable
            rcases ih _ _ _ _ (stands.next passed reached summed slept) others with
              ⟨breaksOff, failure, raised, kind⟩ | ⟨completes, verdicts, previewed⟩
            · exact Or.inl ⟨breaksOff.before rfl, failure, by rw [raised]; rfl, kind⟩
            · refine Or.inr ⟨fun breaksOff => ?_, _, by rw [previewed]; rfl⟩
              exact completes (breaksOff.beyond stands.course breaks tells reached).2

/-- A steady preview breaks off with an overflow or is completed. -/
theorem simulate_breaks_or_completes (steady : Steady policy power attemptTime source)
    (failures : Nat) (writable : Decimal.isWritable failures = true) :
    (BreaksOff policy power attemptTime source [] failures ∧
      ∃ failure, (simulate policy power failures (.ok attemptTime) source).verdicts =
        .error failure ∧ failure.kind = .overflowError) ∨
    (¬ BreaksOff policy power attemptTime source [] failures ∧
      ∃ verdicts, (simulate policy power failures (.ok attemptTime) source).verdicts =
        .ok verdicts) :=
  simulateFrom_breaks_or_completes steady failures [] {} .zero source
    (standsAfter_nil policy power attemptTime source)
    (by rwa [List.length_nil, Nat.zero_add])

/-! ## Short previews -/

theorem Steady.delayBound_nonneg (steady : Steady policy power attemptTime source) :
    0 ≤ policy.delayBound := by
  have consistent := Settings.policy_consistent policy
  have least := (Delay.unclamped_bounds consistent steady.growing steady.within {}).2.1
  have most := Delay.unclamped_le consistent steady.growing steady.within {}
  unfold Settings.delayBound
  linarith

theorem Course.delay_le {delay : Duration} (steady : Steady policy power attemptTime source)
    (course : Course policy power attemptTime source earlier drawn)
    (decided : (policy.evaluate power history simulatedOutcome drawn).verdict =
      .ok (.retry delay)) : delay.inSeconds ≤ policy.delayBound :=
  Delay.compute_le (Settings.policy_consistent policy) steady.growing (course.within steady)
    (Policy.delay_of_evaluate decided)

theorem Course.waited_le (steady : Steady policy power attemptTime source)
    (course : Course policy power attemptTime source verdicts drawn) :
    (waited verdicts : ℚ) / 10 ^ 6 ≤ verdicts.length * policy.delayBound := by
  induction course with
  | start => simp
  | @next earlier verdict history left course tells decided ih =>
      have delayed : (verdict.delay.microseconds : ℚ) / 10 ^ 6 ≤ policy.delayBound := by
        cases verdict with
        | retry delay => exact course.delay_le steady decided
        | succeed => simpa [Verdict.delay] using steady.delayBound_nonneg
        | abort => simpa [Verdict.delay] using steady.delayBound_nonneg
        | retriesExceeded => simpa [Verdict.delay] using steady.delayBound_nonneg
      rw [waited_append, waited_cons, waited_nil, List.length_append, List.length_singleton]
      push_cast
      linarith

/-- A preview does not break off if its attempts and its longest delays stay within 999999999 days
together. -/
theorem not_breaksOff_of_short (steady : Steady policy power attemptTime source)
    (short : failures * (attemptTime.inSeconds + policy.delayBound) ≤ 86399999913600) :
    ¬ BreaksOff policy power attemptTime source [] failures := by
  rintro ⟨rest, left, few, course, -, breaks⟩
  rw [List.nil_append] at course breaks
  have delayed := steady.delayBound_nonneg
  have attempted : 0 ≤ attemptTime.inSeconds :=
    div_nonneg (by exact_mod_cast steady.notNegative) (by norm_num)
  have waitedLess := course.waited_le steady
  -- the attempts and the delays up to the end of the next delay
  have total : (rest.length + 1 : ℚ) * (attemptTime.inSeconds + policy.delayBound) ≤
      86399999913600 := by
    have counted : (rest.length + 1 : ℚ) ≤ failures := by exact_mod_cast few
    exact (mul_le_mul_of_nonneg_right counted (add_nonneg attempted delayed)).trans short
  have inSeconds : attemptTime.inSeconds = attemptTime.microseconds / 10 ^ 6 := rfl
  cases breaks with
  | attempt late =>
      have late' : (86399999999999999999 : ℚ) <
          (rest.length + 1) * attemptTime.microseconds + waited rest := by exact_mod_cast late
      rw [inSeconds] at total
      linarith
  | @delay history tells overruns =>
      have started : .zero ≤ history.elapsed := by
        have waitedBefore := course.waited_nonneg steady
        have attempts : 0 ≤ (rest.length + 1 : ℤ) * attemptTime.microseconds :=
          mul_nonneg (by omega) steady.notNegative
        rw [Duration.le_iff, Duration.zero_microseconds, tells.elapsed]
        omega
      have once : attemptTime.inSeconds + policy.delayBound ≤
          (rest.length + 1 : ℚ) * (attemptTime.inSeconds + policy.delayBound) :=
        le_mul_of_one_le_left (add_nonneg attempted delayed) (by simp)
      have moderate : policy.Moderate := by
        right
        have bound : policy.delayBound =
          policy.longestDelay.inSeconds + policy.longestJitter + 1 / 16 := rfl
        linarith
      exact Policy.not_overruns_of_moderate steady.growing (course.within steady) started moderate
        overruns
  | @pause history delay tells decided late =>
      have late' : (86399999999999999999 : ℚ) <
          (rest.length + 1) * attemptTime.microseconds + waited rest + delay.microseconds := by
        exact_mod_cast late
      have last := course.delay_le steady decided
      rw [inSeconds] at total
      unfold Duration.inSeconds at last
      linarith

end Preview
end Reattempt
