import Mathlib.Tactic
import Reattempt.Proofs.Decision.Conditions

/-!
# Which verdict, which events

A verdict that is reached is the one that conditions, outcome and limits call for, in this order of
precedence, and the handlers are called with events that agree with it
(`evaluate_verdict_and_events`). The history is an argument only; an evaluation gives none back.
-/

set_option autoImplicit false

namespace Reattempt

/-- A verdict that fits its answers is known from them, up to the delay of a retry. -/
theorem Verdict.Fits.iffs {isAbortable isFailure exceeded : Bool} {verdict : Verdict}
    (fits : verdict.Fits isAbortable isFailure exceeded) :
    (verdict = .abort ↔ isAbortable = true) ∧
    (verdict = .succeed ↔ isAbortable = false ∧ isFailure = false) ∧
    (verdict = .retriesExceeded ↔
      isAbortable = false ∧ isFailure = true ∧ exceeded = true) ∧
    ((∃ delay, verdict = .retry delay) ↔
      isAbortable = false ∧ isFailure = true ∧ exceeded = false) := by
  cases verdict with
  | abort => simp [show isAbortable = true from fits]
  | succeed =>
      obtain ⟨unmatched, succeeded⟩ := fits
      simp [unmatched, succeeded]
  | retriesExceeded =>
      obtain ⟨unmatched, failed, exhausted⟩ := fits
      simp [unmatched, failed, exhausted]
  | retry delay =>
      obtain ⟨unmatched, failed, unexceeded⟩ := fits
      simp [unmatched, failed, unexceeded]

namespace Policy

variable {ρ : Type} [RandomSource ρ]
variable {policy : Policy} {power : Power} {history : History} {outcome : Outcome} {source : ρ}
  {verdict : Verdict} {delay : Duration}

theorem notices_of_announcements (facts : AttemptFacts) (isFailure : Bool) (verdict : Verdict) :
    ((announcements facts isFailure verdict).flatMap fun (occasion, event) =>
      policy.handlers.notice occasion event) =
      policy.failureActions facts isFailure ++ policy.verdictActions facts verdict := by
  unfold announcements
  rw [List.flatMap_append]
  congr 1
  · cases isFailure with
    | false => rfl
    | true => exact List.append_nil _
  · cases verdict with
    | succeed => rfl
    | abort => exact List.append_nil _
    | retriesExceeded => exact List.append_nil _
    | retry delay => exact List.append_nil _

/-- No announcement is made for the start of a retry. -/
theorem announcements_not_retry (facts : AttemptFacts) (isFailure : Bool) (verdict : Verdict) :
    ∀ announced ∈ announcements facts isFailure verdict, announced.1 ≠ .retry := by
  unfold announcements
  cases isFailure <;> cases verdict <;> simp [Verdict.announcement?]

theorem fired_of_mem_notice {occasion fired : Occasion} {event shown : Event} {handler : Handler}
    (member : Action.fired fired handler shown ∈ policy.handlers.notice occasion event) :
    fired = occasion := by
  unfold Handlers.notice at member
  obtain ⟨_, _, same⟩ := Option.map_eq_some_iff.mp (Option.mem_toList.mp member)
  cases same
  rfl

/-! ## The whole evaluation -/

def Matched (policy : Policy) (outcome : Outcome) : Prop :=
  ∃ condition ∈ policy.abortConditions, condition.rule.Matches outcome.result outcome.failure

def Spent (policy : Policy) (history : History) : Prop :=
  (policy.maxRetries ≠ -1 ∧ policy.maxRetries + 1 ≤ history.attemptNumber) ∨
    ∃ limit, policy.maxDuration = some limit ∧ limit ≤ history.elapsed

/-- An evaluation that reaches a verdict aborts if a condition matches, else succeeds without a
failure, else gives up if a limit is spent, and else retries after the delay that is computed. The
handlers that are called, behind the questions of the conditions, are the one for the failed attempt
and the one for the verdict, as far as the policy has them, and never the one for the start of a
retry. Their events have what the outcome and the history say, and the delay of the verdict. -/
theorem evaluate_verdict_and_events (policy : Policy) (power : Power) (history : History)
    (outcome : Outcome) (source : ρ)
    (reached : (policy.evaluate power history outcome source).verdict = .ok verdict) :
    (verdict = .abort ↔ policy.Matched outcome) ∧
    (verdict = .succeed ↔ ¬ policy.Matched outcome ∧ outcome.isFailure = false) ∧
    (verdict = .retriesExceeded ↔
      ¬ policy.Matched outcome ∧ outcome.isFailure = true ∧ policy.Spent history) ∧
    (∀ delay, verdict = .retry delay ↔
      ¬ policy.Matched outcome ∧ outcome.isFailure = true ∧ ¬ policy.Spent history ∧
        (Delay.compute power policy.toSettings history source).1 = .ok delay) ∧
    (policy.evaluate power history outcome source).actions =
      (policy.isAbortable outcome.result outcome.failure).2.map Action.asked ++
        (announcements
            { result := outcome.result
              failure := outcome.failure
              attemptNumber := history.attemptNumber
              elapsed := history.elapsed }
            outcome.isFailure verdict).flatMap
          (fun (occasion, event) => policy.handlers.notice occasion event) ∧
    ∀ handler event, Action.fired .retry handler event ∉
      (policy.evaluate power history outcome source).actions := by
  obtain ⟨isAbortable, judged, fits, shown⟩ := evaluate_eq_ok reached
  have matched : isAbortable = true ↔ policy.Matched outcome :=
    AbortCondition.anyMatches_matches judged
  have unmatched : isAbortable = false ↔ ¬ policy.Matched outcome := by
    rw [← matched, Bool.not_eq_true]
  have spent : policy.retriesExceeded history = true ↔ policy.Spent history :=
    policy.toSettings.retriesExceeded_iff history
  have unspent : policy.retriesExceeded history = false ↔ ¬ policy.Spent history := by
    rw [← spent, Bool.not_eq_true]
  obtain ⟨aborts, succeeds, gives, retries⟩ := fits.iffs
  rw [matched] at aborts
  rw [unmatched] at succeeds
  rw [unmatched, spent] at gives
  rw [unmatched, unspent] at retries
  have actions : (policy.evaluate power history outcome source).actions =
      policy.conditionActions outcome.result outcome.failure ++
        (announcements (history.facts outcome.result outcome.failure) outcome.isFailure
          verdict).flatMap fun (occasion, event) => policy.handlers.notice occasion event := by
    rw [shown, notices_of_announcements]
  refine ⟨aborts, succeeds, gives, fun delay => ⟨?_, ?_⟩, actions, ?_⟩
  · rintro rfl
    obtain ⟨noMatch, failed, within⟩ := retries.mp ⟨delay, rfl⟩
    exact ⟨noMatch, failed, within, delay_of_evaluate reached⟩
  · rintro ⟨noMatch, failed, within, computed⟩
    obtain ⟨chosen, rfl⟩ := retries.mpr ⟨noMatch, failed, within⟩
    have same := (delay_of_evaluate reached).symm.trans computed
    rw [Except.ok.inj same]
  · intro handler event member
    rw [actions] at member
    rcases List.mem_append.mp member with question | call
    · obtain ⟨asked, _, same⟩ := List.mem_map.mp question
      cases same
    · obtain ⟨⟨occasion, announced⟩, listed, fired⟩ := List.mem_flatMap.mp call
      exact announcements_not_retry _ _ _ _ listed (fired_of_mem_notice fired).symm

def undecidedPolicy : Policy :=
  ⟨{ delay := ⟨1250000, by decide⟩, abortConditions := [undecidedCondition],
     handlers := RunSetup.faultyPolicy.handlers },
    by decide +kernel⟩

/-- A condition and handlers that raise failures change nothing about the retry that is due. -/
theorem evaluate_verdict_and_events_of_faulty_observers :
    let delay : Duration := undecidedPolicy.delay
    (undecidedPolicy.evaluate Power.first firstHistory failedOutcome RunSetup.noNumbers).verdict =
        .ok (.retry delay) ∧
      ¬ undecidedPolicy.Matched failedOutcome ∧ failedOutcome.isFailure = true ∧
      ¬ undecidedPolicy.Spent firstHistory ∧
      (Delay.compute Power.first undecidedPolicy.toSettings firstHistory
        RunSetup.noNumbers).1 = .ok delay := by
  intro delay
  have reached : (undecidedPolicy.evaluate Power.first firstHistory failedOutcome
      RunSetup.noNumbers).verdict = .ok (.retry delay) := by
    decide +kernel
  obtain ⟨-, -, -, retries, -⟩ := evaluate_verdict_and_events undecidedPolicy Power.first
    firstHistory failedOutcome RunSetup.noNumbers reached
  exact ⟨reached, (retries delay).mp rfl⟩

end Policy
end Reattempt
