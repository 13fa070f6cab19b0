import Mathlib.Tactic
import Reattempt.Proofs.Builder.Invariant
import Reattempt.Proofs.Delay.Overflow
import Reattempt.Proofs.Execution.Observers
import Reattempt.Proofs.Execution.Trace

/-!
# When an evaluation reaches a verdict

An evaluation reaches the verdict that is due, unless something gets out of a condition or of a
handler that is told, the number of the attempt is too long to be noted, or a retry is due and the
seconds of its delay are no duration (`evaluate_total_iff`). Then it raises that, in place of what
the operation returned or raised. Moderate settings rule out the last.
-/

set_option autoImplicit false

namespace Reattempt

namespace AbortCondition

variable {result : Value} {failure : Option Failure}

def Quiet (result : Value) (failure : Option Failure) (condition : AbortCondition) : Prop :=
  ∀ raised, condition.rule.judge result failure = .error raised →
    condition.escaped raised = none

theorem anyMatches_of_quiet (conditions : List AbortCondition)
    (quiet : ∀ condition ∈ conditions, condition.Quiet result failure) :
    ∃ answer, (anyMatches result failure conditions).1 = .ok answer := by
  induction conditions with
  | nil => exact ⟨false, rfl⟩
  | cons condition rest ih =>
      obtain ⟨answer, given⟩ :=
        ih fun later listed => quiet later (List.mem_cons_of_mem _ listed)
      have first := quiet condition List.mem_cons_self
      unfold Quiet at first
      rw [anyMatches]
      cases judged : condition.rule.judge result failure with
      | ok found =>
          cases found with
          | true => exact ⟨true, rfl⟩
          | false => exact ⟨answer, given⟩
      | error raised =>
          dsimp only
          rw [first raised judged]
          exact ⟨answer, given⟩

end AbortCondition

namespace Policy

open RandomSource

variable {ρ : Type} [RandomSource ρ]
variable {policy : Policy} {power : Power} {history : History} {outcome : Outcome} {source : ρ}
  {verdict : Verdict}

theorem tells_of_quiet (quiet : policy.handlers.Quiet) (told : List (Occasion × Event)) :
    policy.Tells told := by
  intro announced _
  rw [Handlers.fire_of_quiet quiet]

/-- A retry is due, but the seconds of its delay are those of a thousand million days or more. -/
structure Overruns (policy : Policy) (power : Power) (history : History) (outcome : Outcome)
    (source : ρ) : Prop where
  unmatched : (policy.isAbortable outcome.result outcome.failure).1 = .ok false
  failed : outcome.isFailure = true
  unexceeded : policy.retriesExceeded history = false
  long : 86400000000000 ≤
    (Delay.seconds power policy.toSettings history (fresh source)).1.value

/-- There is one verdict at most that is due. -/
theorem Due.unique {other : Verdict} (due : policy.Due power history outcome source verdict)
    (also : policy.Due power history outcome source other) : verdict = other := by
  obtain ⟨⟨isAbortable, asked, fits⟩, delayed⟩ := due
  obtain ⟨⟨_, asked', fits'⟩, delayed'⟩ := also
  cases asked.symm.trans asked'
  cases verdict with
  | retry delay =>
      obtain ⟨rfl, failed, unexceeded⟩ := fits
      cases other with
      | retry delay' =>
          have same := (delayed delay rfl).symm.trans (delayed' delay' rfl)
          rw [Except.ok.inj same]
      | abort => cases fits'
      | succeed => exact absurd (failed.symm.trans fits'.2) (by decide)
      | retriesExceeded => exact absurd (unexceeded.symm.trans fits'.2.2) (by decide)
  | abort =>
      cases other <;> simp_all [Verdict.Fits]
  | succeed =>
      cases other <;> simp_all [Verdict.Fits]
  | retriesExceeded =>
      cases other <;> simp_all [Verdict.Fits]

section Computed

variable (growing : power.Growing) (within : WithinUnit (fresh source))
include growing within

theorem Due.not_overruns (due : policy.Due power history outcome source verdict) :
    ¬ policy.Overruns power history outcome source := by
  intro overruns
  obtain ⟨⟨isAbortable, asked, fits⟩, delayed⟩ := due
  cases asked.symm.trans overruns.unmatched
  rw [overruns.failed, overruns.unexceeded] at fits
  cases verdict with
  | retry delay =>
      have short := (Delay.compute_eq_ok_iff (Settings.policy_consistent policy) growing
        within).mp ⟨delay, delayed delay rfl⟩
      exact absurd overruns.long (not_le.mpr short)
  | abort => cases fits
  | succeed => exact absurd fits.2 (by decide)
  | retriesExceeded => exact absurd fits.2.2 (by decide)

/-- If the conditions answer, then a verdict is due, or the delay of a retry is too long. -/
theorem exists_due {isAbortable : Bool}
    (asked : (policy.isAbortable outcome.result outcome.failure).1 = .ok isAbortable)
    (inTime : ¬ policy.Overruns power history outcome source) :
    ∃ verdict, policy.Due power history outcome source verdict := by
  cases isAbortable with
  | true => exact ⟨.abort, ⟨true, asked, rfl⟩, by rintro _ ⟨⟩⟩
  | false =>
      cases failed : outcome.isFailure with
      | false => exact ⟨.succeed, ⟨false, asked, rfl, failed⟩, by rintro _ ⟨⟩⟩
      | true =>
          cases exceeded : policy.retriesExceeded history with
          | true =>
              exact ⟨.retriesExceeded, ⟨false, asked, rfl, failed, exceeded⟩, by rintro _ ⟨⟩⟩
          | false =>
              have short : ¬ 86400000000000 ≤
                  (Delay.seconds power policy.toSettings history (fresh source)).1.value :=
                fun long => inTime ⟨asked, failed, exceeded, long⟩
              obtain ⟨delay, computed⟩ := (Delay.compute_eq_ok_iff
                (Settings.policy_consistent policy) growing within).mpr (not_le.mp short)
              refine ⟨.retry delay, ⟨false, asked, rfl, failed, exceeded⟩, ?_⟩
              rintro _ ⟨⟩
              exact computed

theorem evaluate_of_overruns
    (told : policy.Tells [(.failedAttempt,
      .attempted (history.facts outcome.result outcome.failure))])
    (overruns : policy.Overruns power history outcome source) :
    ∃ count : ℤ, 1000000000 ≤ count ∧ count ≤ 2000000000 ∧
      (policy.evaluate power history outcome source).verdict =
        .error (Failure.ofRangeError (.days count)) := by
  obtain ⟨unmatched, failed, unexceeded, long⟩ := overruns
  obtain ⟨count, least, most, computed⟩ :=
    Delay.compute_eq_days (Settings.policy_consistent policy) growing within long
  refine ⟨count, least, most, ?_⟩
  have answered := (tells_cons_iff.mp told).1
  unfold evaluate
  rcases asked : policy.isAbortable outcome.result outcome.failure with ⟨answer, questions⟩
  rw [asked] at unmatched
  cases unmatched
  rcases fired : policy.handlers.fire .failedAttempt
    (.attempted (history.facts outcome.result outcome.failure)) with ⟨ready, announced⟩
  rw [fired] at answered
  cases answered
  rcases delayed : Delay.compute power policy.toSettings history source with ⟨delay, drawn⟩
  rw [delayed] at computed
  cases computed
  simp [decide, conclude, failed, fired, unexceeded, delayed, Decision.after]

theorem not_overruns_of_moderate (started : .zero ≤ history.elapsed)
    (moderate : policy.Moderate) : ¬ policy.Overruns power history outcome source := by
  intro overruns
  have short := Delay.seconds_lt_of_moderate (Settings.policy_consistent policy) growing within
    started moderate
  exact absurd overruns.long (not_le.mpr short)

theorem evaluate_of_not_overruns (handlers : policy.handlers.Quiet)
    (conditions : ∀ condition ∈ policy.abortConditions,
      condition.Quiet outcome.result outcome.failure)
    (writable : Decimal.isWritable history.attemptNumber = true)
    (inTime : ¬ policy.Overruns power history outcome source) :
    ∃ verdict, (policy.evaluate power history outcome source).verdict = .ok verdict := by
  obtain ⟨isAbortable, asked⟩ :=
    AbortCondition.anyMatches_of_quiet policy.abortConditions conditions
  obtain ⟨verdict, due⟩ := exists_due growing within asked inTime
  exact ⟨verdict, evaluate_eq_ok_iff.mpr
    ⟨due, Or.inr writable, tells_of_quiet handlers _⟩⟩

end Computed

/-- An evaluation reaches a verdict exactly if the conditions answer, the delay of a retry is not
too long, and the verdict that is due then can be noted and nothing gets out of the handlers that
are told. A delay that is too long overflows, which cannot happen to moderate settings; if nothing
gets out of conditions and handlers and the attempt can be noted, this is the only case. -/
theorem evaluate_total_iff (policy : Policy) (power : Power) (history : History)
    (outcome : Outcome) (source : ρ) (growing : power.Growing)
    (within : WithinUnit (fresh source)) (started : .zero ≤ history.elapsed) :
    ((∃ verdict, (policy.evaluate power history outcome source).verdict = .ok verdict) ↔
      (∃ isAbortable,
        (policy.isAbortable outcome.result outcome.failure).1 = .ok isAbortable) ∧
      ¬ policy.Overruns power history outcome source ∧
      ∀ verdict, policy.Due power history outcome source verdict →
        (verdict = .succeed ∨ Decimal.isWritable history.attemptNumber = true) ∧
        policy.Tells (announcements (history.facts outcome.result outcome.failure)
          outcome.isFailure verdict)) ∧
    (policy.Overruns power history outcome source →
      policy.Tells [(.failedAttempt,
        .attempted (history.facts outcome.result outcome.failure))] →
      ∃ count : ℤ, 1000000000 ≤ count ∧ count ≤ 2000000000 ∧
        (policy.evaluate power history outcome source).verdict =
          .error (Failure.ofRangeError (.days count))) ∧
    (policy.Moderate → ¬ policy.Overruns power history outcome source) ∧
    (policy.handlers.Quiet →
      (∀ condition ∈ policy.abortConditions, condition.Quiet outcome.result outcome.failure) →
      Decimal.isWritable history.attemptNumber = true →
      ((∃ verdict, (policy.evaluate power history outcome source).verdict = .ok verdict) ↔
        ¬ policy.Overruns power history outcome source)) := by
  have inTime {verdict : Verdict}
      (reached : (policy.evaluate power history outcome source).verdict = .ok verdict) :
      ¬ policy.Overruns power history outcome source :=
    (evaluate_eq_ok_iff.mp reached).1.not_overruns growing within
  refine ⟨⟨?_, ?_⟩, fun overruns told => evaluate_of_overruns growing within told overruns,
    not_overruns_of_moderate growing within started, fun handlers conditions writable =>
      ⟨fun ⟨_, reached⟩ => inTime reached,
        evaluate_of_not_overruns growing within handlers conditions writable⟩⟩
  · rintro ⟨verdict, reached⟩
    obtain ⟨due, rest⟩ := evaluate_eq_ok_iff.mp reached
    obtain ⟨isAbortable, asked, _⟩ := due.fits
    refine ⟨⟨isAbortable, asked⟩, inTime reached, fun other also => ?_⟩
    cases due.unique also
    exact rest
  · rintro ⟨⟨isAbortable, asked⟩, short, announced⟩
    obtain ⟨verdict, due⟩ := exists_due growing within asked short
    exact ⟨verdict, evaluate_eq_ok_iff.mpr ⟨due, announced verdict due⟩⟩

/-! ## Long delays -/

def undecidedCondition : AbortCondition :=
  .ofPredicate (.ofQuestion 1 none (.raises (.valueError "undecided")))

/-- Delays of half of 999999999 days that jitter can double, with a condition and handlers that
fail. -/
def farPolicy : Policy :=
  ⟨{ delay := ⟨43199999956800000000, by decide⟩, jitterFactor := some (Binary64.ofInt 1),
     abortConditions := [undecidedCondition], handlers := RunSetup.faultyPolicy.handlers },
    by decide +kernel⟩

def firstHistory : History := { attemptNumber := 1 }

def failedOutcome : Outcome := .failed (some (.valueError "first")) .null

/-- Jitter cannot move a delay of half the days out of range. -/
theorem evaluate_total_of_far_delay :
    Power.first.Growing ∧ WithinUnit (fresh halves) ∧ farPolicy.handlers.Quiet ∧
    undecidedCondition ∈ farPolicy.abortConditions ∧
    undecidedCondition.Quiet failedOutcome.result failedOutcome.failure ∧
    .zero ≤ firstHistory.elapsed ∧ farPolicy.Moderate ∧
    ∃ verdict, (farPolicy.evaluate Power.first firstHistory failedOutcome
      halves).verdict = .ok verdict := by
  have handlers : farPolicy.handlers.Quiet := by
    intro occasion handler event raised handles raises
    cases occasion <;> cases handles <;> cases raises <;> decide
  have undecided : undecidedCondition.Quiet failedOutcome.result failedOutcome.failure := by
    intro raised judged
    cases judged
    decide
  have conditions : ∀ condition ∈ farPolicy.abortConditions,
      condition.Quiet failedOutcome.result failedOutcome.failure := by
    intro condition listed
    rw [List.mem_singleton.mp listed]
    exact undecided
  have moderate : farPolicy.Moderate := by
    right
    have longest : farPolicy.longestDelay = ⟨43199999956800000000, by decide⟩ := rfl
    have jitter : farPolicy.longestJitter =
        farPolicy.longestDelay.inSeconds * (Binary64.ofInt 1).value := rfl
    rw [jitter, Binary64.ofInt_one.2, longest]
    norm_num [Duration.inSeconds]
  have writable : Decimal.isWritable firstHistory.attemptNumber = true := by decide +kernel
  obtain ⟨-, -, inTime, total⟩ :=
    evaluate_total_iff farPolicy Power.first firstHistory failedOutcome halves
      Power.first_growing withinUnit_halves (by decide)
  exact ⟨Power.first_growing, withinUnit_halves, handlers, List.mem_singleton_self _, undecided,
    by decide, moderate, (total handlers conditions writable).mpr (inTime moderate)⟩

def longestPolicy : Policy := ⟨{ delay := ⟨86399999999999999999, by decide⟩ }, by decide +kernel⟩

theorem evaluate_overflows_of_longest_delay :
    (longestPolicy.evaluate Power.first firstHistory failedOutcome halves).verdict =
      .error ⟨.overflowError, some "days=1000000000; must have magnitude <= 999999999"⟩ ∧
    failureOf ((RunSetup.failingAlways longestPolicy).run Binary64.zero 5
        RunSetup.noNumbers).outcome =
      some ⟨.overflowError, some "days=1000000000; must have magnitude <= 999999999"⟩ := by
  constructor
  · decide +kernel
  · decide +kernel

end Policy
end Reattempt
