import Mathlib.Tactic
import Reattempt.Proofs.Decision.Evaluation
import Reattempt.Proofs.Delay.Draws

/-!
# The numbers that an evaluation takes

An evaluation asks the source for a fresh generator only if it schedules a retry, and then it draws
the numbers of the delay (`evaluate_source`). Its verdict depends on the source through these
numbers alone (`evaluate_verdict_congr`).
-/

set_option autoImplicit false

namespace Reattempt

namespace Policy

open RandomSource

variable {ρ σ : Type} [RandomSource ρ] [RandomSource σ]
variable {policy : Policy} {power : Power} {history : History} {outcome : Outcome}
variable {source : ρ} {other : σ} {verdict : Verdict}

/-- A retry is due: no condition matches a failure, and the limits leave room. -/
def retryDue (policy : Policy) (history : History) (isFailure isAbortable : Bool) : Bool :=
  !isAbortable && isFailure && !policy.retriesExceeded history

theorem shouldRetry_of_fits {isAbortable isFailure : Bool}
    (fits : verdict.Fits isAbortable isFailure (policy.retriesExceeded history)) :
    verdict.shouldRetry = policy.retryDue history isFailure isAbortable := by
  unfold retryDue
  cases verdict with
  | retry delay =>
      obtain ⟨unmatched, failed, unexceeded⟩ := fits
      rw [unmatched, failed, unexceeded]
      rfl
  | abort =>
      have aborted : isAbortable = true := fits
      rw [aborted]
      rfl
  | succeed =>
      obtain ⟨unmatched, passed⟩ := fits
      rw [unmatched, passed]
      rfl
  | retriesExceeded =>
      obtain ⟨unmatched, failed, exceeded⟩ := fits
      rw [unmatched, failed, exceeded]
      rfl

/-! ## What happens to the source -/

theorem conclude_source (isFailure isAbortable : Bool) (facts : AttemptFacts) :
    (policy.conclude power history isFailure isAbortable facts source).source =
      if policy.retryDue history isFailure isAbortable then advanced policy.draws (fresh source)
      else source := by
  have drawn : (Delay.compute power policy.toSettings history source).2 =
      advanced policy.draws (fresh source) := Delay.compute_source
  unfold conclude retryDue
  cases isAbortable with
  | true => exact Decision.noted_source history _
  | false =>
      cases isFailure with
      | false => rfl
      | true =>
          simp only [Bool.false_eq_true, if_false, Bool.not_true, Bool.not_false, Bool.true_and]
          cases policy.retriesExceeded history with
          | true => exact Decision.noted_source history _
          | false =>
              rcases computed : Delay.compute power policy.toSettings history source with
                ⟨answer, left⟩
              rw [computed] at drawn
              cases answer with
              | error error => exact drawn
              | ok delay => exact (Decision.noted_source history _).trans drawn

theorem decide_source {isFailure isAbortable : Bool} {result : Value} {failure : Option Failure}
    (reached : (policy.decide power history isFailure isAbortable result failure source).verdict =
      .ok verdict) :
    (policy.decide power history isFailure isAbortable result failure source).source =
      if verdict.shouldRetry then advanced policy.draws (fresh source) else source := by
  unfold decide at reached ⊢
  dsimp only at reached ⊢
  split at reached
  · cases reached
  · have fits := (conclude_eq_ok reached).1
    rw [shouldRetry_of_fits fits]
    exact conclude_source isFailure isAbortable _

/-- A retry takes a fresh generator and the numbers of the delay from it; every other verdict leaves
the source as it was. -/
theorem evaluate_source
    (reached : (policy.evaluate power history outcome source).verdict = .ok verdict) :
    (policy.evaluate power history outcome source).source =
      if verdict.shouldRetry then advanced policy.draws (fresh source) else source := by
  unfold evaluate at reached ⊢
  dsimp only at reached ⊢
  split at reached
  · cases reached
  · exact decide_source reached

/-! ## What the verdict depends on -/

theorem conclude_verdict_congr (isFailure isAbortable : Bool) (facts : AttemptFacts)
    (same : policy.retryDue history isFailure isAbortable = true →
      ∀ index < policy.draws, number index (fresh source) = number index (fresh other)) :
    (policy.conclude power history isFailure isAbortable facts source).verdict =
      (policy.conclude power history isFailure isAbortable facts other).verdict := by
  unfold conclude
  unfold retryDue at same
  cases isAbortable with
  | true => exact Decision.noted_verdict_congr rfl
  | false =>
      cases isFailure with
      | false => rfl
      | true =>
          simp only [Bool.false_eq_true, if_false, Bool.not_true, Bool.not_false,
            Bool.true_and] at same ⊢
          cases exceeded : policy.retriesExceeded history with
          | true => exact Decision.noted_verdict_congr rfl
          | false =>
              have delays : (Delay.compute power policy.toSettings history source).1 =
                  (Delay.compute power policy.toSettings history other).1 :=
                Delay.compute_congr (same (by rw [exceeded]; rfl))
              generalize Delay.compute power policy.toSettings history source = first at delays
              generalize Delay.compute power policy.toSettings history other = second at delays
              obtain ⟨answer, left⟩ := first
              obtain ⟨_, left'⟩ := second
              cases delays
              cases answer with
              | error error => rfl
              | ok delay => exact Decision.noted_verdict_congr rfl

/-- Evaluations on two sources come to the same if a retry would draw the same numbers. -/
theorem evaluate_verdict_congr
    (same : ∀ isAbortable, (policy.isAbortable outcome.result outcome.failure).1 =
      .ok isAbortable → policy.retryDue history outcome.isFailure isAbortable = true →
        ∀ index < policy.draws, number index (fresh source) = number index (fresh other)) :
    (policy.evaluate power history outcome source).verdict =
      (policy.evaluate power history outcome other).verdict := by
  unfold evaluate decide
  generalize policy.isAbortable outcome.result outcome.failure = asked at same ⊢
  obtain ⟨answer, questions⟩ := asked
  cases answer with
  | error raised => rfl
  | ok isAbortable =>
      dsimp only [Decision.after]
      split
      · rfl
      · exact conclude_verdict_congr _ _ _ (same isAbortable rfl)

/-- Without random delays and jitter, the source does not matter. -/
theorem evaluate_verdict_of_undrawn (undrawn : policy.draws = 0) (source : ρ) (other : σ) :
    (policy.evaluate power history outcome source).verdict =
      (policy.evaluate power history outcome other).verdict := by
  apply evaluate_verdict_congr
  intro isAbortable asked due index below
  rw [undrawn] at below
  exact absurd below (Nat.not_lt_zero index)

/-- A verdict that is reached is reached with every source that would give a retry the same
numbers. -/
theorem evaluate_eq_ok_congr
    (reached : (policy.evaluate power history outcome source).verdict = .ok verdict)
    (same : verdict.shouldRetry = true →
      ∀ index < policy.draws, number index (fresh source) = number index (fresh other)) :
    (policy.evaluate power history outcome other).verdict = .ok verdict := by
  rw [← reached]
  symm
  apply evaluate_verdict_congr
  intro isAbortable asked due
  obtain ⟨answer, answered, fits, -⟩ := evaluate_eq_ok reached
  rw [asked] at answered
  cases answered
  exact same ((shouldRetry_of_fits fits).trans due)

end Policy
end Reattempt
