import Mathlib.Tactic
import Reattempt.Decision

/-!
# What an evaluation comes to

If an evaluation reaches a verdict, then the verdict fits the abort conditions, the classification
and the limits (`Verdict.Fits`), and what was shown on the way is known from the verdict alone:
the predicates asked, the failed attempt if it was one, and at most one event for the verdict.
-/

set_option autoImplicit false

namespace Reattempt

namespace Handlers

/-- What is shown when an occasion is announced, whatever the handler answers. -/
def notice (handlers : Handlers) (occasion : Occasion) (event : Event) : List Action :=
  ((handlers.get occasion).map fun handler => Action.fired occasion handler event).toList

theorem fire_actions (handlers : Handlers) (occasion : Occasion) (event : Event) :
    (handlers.fire occasion event).2 = handlers.notice occasion event := by
  unfold fire notice
  cases handlers.get occasion with
  | none => rfl
  | some handler =>
      dsimp only
      cases handler.raises event with
      | none => rfl
      | some raised =>
          dsimp only
          cases raised.escaped <;> rfl

/-- An announcement goes wrong only with what gets out of its handler. -/
theorem fire_eq_error_iff (handlers : Handlers) (occasion : Occasion) (event : Event)
    (failure : Failure) :
    (handlers.fire occasion event).1 = .error failure ↔
      ∃ handler, handlers.get occasion = some handler ∧
        ∃ raised, handler.raises event = some raised ∧ raised.escaped = some failure := by
  unfold fire
  cases handlers.get occasion with
  | none => simp
  | some handler =>
      simp only [Option.some.injEq, exists_eq_left']
      cases handler.raises event with
      | none => simp
      | some raised => cases escaped : raised.escaped <;> simp [escaped]

end Handlers

namespace Decision

variable {ρ : Type} {history : History} {decision : Decision ρ}

theorem noted_of_writable (writable : Decimal.isWritable history.attemptNumber = true) :
    decision.noted history = decision := if_pos writable

theorem noted_of_not_writable (long : Decimal.isWritable history.attemptNumber = false) :
    decision.noted history = ⟨.error (Failure.ofRangeError .digits), decision.source, []⟩ :=
  if_neg (by simp [long])

@[simp] theorem noted_source (history : History) (decision : Decision ρ) :
    (decision.noted history).source = decision.source := by
  unfold noted
  split <;> rfl

theorem noted_verdict_congr {σ : Type} {other : Decision σ}
    (same : decision.verdict = other.verdict) :
    (decision.noted history).verdict = (other.noted history).verdict := by
  unfold noted
  split
  · exact same
  · rfl

/-- A verdict that is noted is the one that was reached. -/
theorem noted_eq_ok {verdict : Verdict}
    (reached : (decision.noted history).verdict = .ok verdict) :
    decision.noted history = decision := by
  refine noted_of_writable (eq_true_of_ne_false fun long => ?_)
  rw [noted_of_not_writable long] at reached
  cases reached

end Decision

namespace AbortCondition

/-- If asking the conditions gives an answer, it tells whether one of them matches. -/
theorem anyMatches_eq_ok {result : Value} {failure : Option Failure}
    (conditions : List AbortCondition) : ∀ answer : Bool,
    (anyMatches result failure conditions).1 = .ok answer →
      (answer = true ↔
        ∃ condition ∈ conditions, condition.rule.judge result failure = .ok true) := by
  induction conditions with
  | nil =>
      intro answer given
      cases given
      simp
  | cons condition rest ih =>
      intro answer given
      rw [anyMatches] at given
      cases judged : condition.rule.judge result failure with
      | ok found =>
          cases found with
          | true =>
              simp only [judged] at given
              cases given
              simp [judged]
          | false =>
              simp only [judged] at given
              simp [judged, ih answer given]
      | error raised =>
          simp only [judged] at given
          split at given
          · simp [judged, ih answer given]
          · cases given

end AbortCondition

def Verdict.Fits (isAbortable isFailure exceeded : Bool) : Verdict → Prop
  | .abort => isAbortable = true
  | .succeed => isAbortable = false ∧ isFailure = false
  | .retriesExceeded => isAbortable = false ∧ isFailure = true ∧ exceeded = true
  | .retry _ => isAbortable = false ∧ isFailure = true ∧ exceeded = false

def Verdict.announcement? (facts : AttemptFacts) : Verdict → Option (Occasion × Event)
  | .succeed => none
  | .abort => some (.abort, .completed facts)
  | .retriesExceeded => some (.retriesExceeded, .completed facts)
  | .retry delay => some (.retryScheduled, .scheduled facts delay)

theorem Settings.retriesExceeded_iff (settings : Settings) (history : History) :
    settings.retriesExceeded history = true ↔
      (settings.maxRetries ≠ -1 ∧ settings.maxRetries + 1 ≤ history.attemptNumber) ∨
        ∃ limit ∈ settings.maxDuration, limit ≤ history.elapsed := by
  simp [Settings.retriesExceeded, Option.any_eq_true]

namespace Policy

variable {ρ : Type} {policy : Policy} {power : Power} {history : History} {source : ρ}
  {verdict : Verdict}

def verdictActions (policy : Policy) (facts : AttemptFacts) : Verdict → List Action
  | .succeed => []
  | .abort => policy.handlers.notice .abort (.completed facts)
  | .retriesExceeded => policy.handlers.notice .retriesExceeded (.completed facts)
  | .retry delay => policy.handlers.notice .retryScheduled (.scheduled facts delay)

def failureActions (policy : Policy) (facts : AttemptFacts) (isFailure : Bool) : List Action :=
  if isFailure then policy.handlers.notice .failedAttempt (.attempted facts) else []

def conditionActions (policy : Policy) (result : Value) (failure : Option Failure) :
    List Action :=
  (policy.isAbortable result failure).2.map Action.asked

theorem announce_eq_ok {occasion : Occasion} {event : Event} {chosen : Verdict}
    (reached : (Decision.announce policy occasion event chosen source).verdict = .ok verdict) :
    verdict = chosen := by
  unfold Decision.announce at reached
  dsimp only at reached
  cases answer : (policy.handlers.fire occasion event).1 with
  | error raised =>
      rw [answer] at reached
      cases reached
  | ok announced =>
      rw [answer] at reached
      cases reached
      rfl

theorem announce_actions (occasion : Occasion) (event : Event) (chosen : Verdict) :
    (Decision.announce policy occasion event chosen source).actions =
      policy.handlers.notice occasion event := by
  rw [← Handlers.fire_actions]
  rfl

theorem noted_announce_eq_ok {occasion : Occasion} {event : Event} {chosen : Verdict}
    (reached :
      ((Decision.announce policy occasion event chosen source).noted history).verdict =
        .ok verdict) :
    verdict = chosen ∧
      ((Decision.announce policy occasion event chosen source).noted history).actions =
        policy.handlers.notice occasion event := by
  have same := Decision.noted_eq_ok reached
  rw [same] at reached ⊢
  exact ⟨announce_eq_ok reached, announce_actions _ _ _⟩

def announcements (facts : AttemptFacts) (isFailure : Bool) (verdict : Verdict) :
    List (Occasion × Event) :=
  (if isFailure then [(.failedAttempt, .attempted facts)] else []) ++
    (verdict.announcement? facts).toList

def Tells (policy : Policy) (told : List (Occasion × Event)) : Prop :=
  ∀ announced ∈ told, (policy.handlers.fire announced.1 announced.2).1 = .ok ()

theorem tells_nil (policy : Policy) : policy.Tells [] :=
  fun _ nothing => absurd nothing List.not_mem_nil

theorem tells_cons_iff {occasion : Occasion} {event : Event} {told : List (Occasion × Event)} :
    policy.Tells ((occasion, event) :: told) ↔
      (policy.handlers.fire occasion event).1 = .ok () ∧ policy.Tells told :=
  List.forall_mem_cons

theorem noted_announce_eq_ok_iff {occasion : Occasion} {event : Event} {chosen : Verdict} :
    ((Decision.announce policy occasion event chosen source).noted history).verdict =
        .ok verdict ↔
      chosen = verdict ∧ Decimal.isWritable history.attemptNumber = true ∧
        policy.Tells [(occasion, event)] := by
  cases writable : Decimal.isWritable history.attemptNumber with
  | false => simp [Decision.noted_of_not_writable writable]
  | true =>
      rw [Decision.noted_of_writable writable, Decision.announce]
      cases answer : (policy.handlers.fire occasion event).1 <;>
        simp [answer, Tells, Except.map]

variable [RandomSource ρ]

theorem conclude_eq_ok_iff {isFailure isAbortable : Bool} {facts : AttemptFacts} :
    (policy.conclude power history isFailure isAbortable facts source).verdict = .ok verdict ↔
      verdict.Fits isAbortable isFailure (policy.retriesExceeded history) ∧
      (∀ delay, verdict = .retry delay →
        (Delay.compute power policy.toSettings history source).1 = .ok delay) ∧
      (verdict = .succeed ∨ Decimal.isWritable history.attemptNumber = true) ∧
      policy.Tells (verdict.announcement? facts).toList := by
  unfold conclude
  cases isAbortable with
  | true =>
      rw [if_pos rfl, noted_announce_eq_ok_iff]
      cases verdict <;> simp [Verdict.Fits, Verdict.announcement?]
  | false =>
      cases isFailure with
      | false =>
          cases verdict <;> simp [Verdict.Fits, Verdict.announcement?, tells_nil]
      | true =>
          simp only [Bool.false_eq_true, if_false, Bool.not_true]
          cases exceeded : policy.retriesExceeded history with
          | true =>
              rw [if_pos rfl, noted_announce_eq_ok_iff]
              cases verdict <;> simp [Verdict.Fits, Verdict.announcement?]
          | false =>
              rw [if_neg Bool.false_ne_true]
              rcases Delay.compute power policy.toSettings history source with ⟨answer, drawn⟩
              cases answer with
              | error error => cases verdict <;> simp [Verdict.Fits]
              | ok delay =>
                  dsimp only
                  rw [noted_announce_eq_ok_iff]
                  cases verdict <;> simp +contextual [Verdict.Fits, Verdict.announcement?]

theorem decide_eq_ok_iff {isFailure isAbortable : Bool} {result : Value}
    {failure : Option Failure} :
    (policy.decide power history isFailure isAbortable result failure source).verdict =
        .ok verdict ↔
      verdict.Fits isAbortable isFailure (policy.retriesExceeded history) ∧
      (∀ delay, verdict = .retry delay →
        (Delay.compute power policy.toSettings history source).1 = .ok delay) ∧
      (verdict = .succeed ∨ Decimal.isWritable history.attemptNumber = true) ∧
      policy.Tells (announcements (history.facts result failure) isFailure verdict) := by
  unfold decide announcements
  cases isFailure with
  | false => exact conclude_eq_ok_iff
  | true =>
      simp only [if_true, List.singleton_append, tells_cons_iff]
      rcases policy.handlers.fire .failedAttempt (.attempted (history.facts result failure)) with
        ⟨answer, announced⟩
      cases answer with
      | error raised => simp
      | ok told =>
          change (policy.conclude power history true isAbortable (history.facts result failure)
            source).verdict = .ok verdict ↔ _
          rw [conclude_eq_ok_iff]
          simp

/-- What the answers of the conditions, the outcome, the limits and the computed delay call for. -/
structure Due (policy : Policy) (power : Power) (history : History) (outcome : Outcome)
    (source : ρ) (verdict : Verdict) : Prop where
  fits : ∃ isAbortable,
    (policy.isAbortable outcome.result outcome.failure).1 = .ok isAbortable ∧
      verdict.Fits isAbortable outcome.isFailure (policy.retriesExceeded history)
  delayed : ∀ delay, verdict = .retry delay →
    (Delay.compute power policy.toSettings history source).1 = .ok delay

/-- The verdict that is due is reached, if the attempt can be noted and nothing gets out of the
handlers that are told. -/
theorem evaluate_eq_ok_iff {outcome : Outcome} :
    (policy.evaluate power history outcome source).verdict = .ok verdict ↔
      policy.Due power history outcome source verdict ∧
      (verdict = .succeed ∨ Decimal.isWritable history.attemptNumber = true) ∧
      policy.Tells (announcements (history.facts outcome.result outcome.failure)
        outcome.isFailure verdict) := by
  unfold evaluate
  rcases asked : policy.isAbortable outcome.result outcome.failure with ⟨answer, questions⟩
  cases answer with
  | error raised =>
      refine iff_of_false nofun ?_
      rintro ⟨⟨⟨isAbortable, answered, _⟩, _⟩, _⟩
      rw [asked] at answered
      cases answered
  | ok isAbortable =>
      change (policy.decide power history outcome.isFailure isAbortable outcome.result
        outcome.failure source).verdict = .ok verdict ↔ _
      rw [decide_eq_ok_iff]
      constructor
      · rintro ⟨fits, delayed, rest⟩
        exact ⟨⟨⟨isAbortable, by rw [asked], fits⟩, delayed⟩, rest⟩
      · rintro ⟨⟨⟨answer, answered, fits⟩, delayed⟩, rest⟩
        rw [asked] at answered
        cases answered
        exact ⟨fits, delayed, rest⟩

/-- A retry that is scheduled has the delay that is computed for it. -/
theorem delay_of_evaluate {outcome : Outcome} {delay : Duration}
    (reached : (policy.evaluate power history outcome source).verdict = .ok (.retry delay)) :
    (Delay.compute power policy.toSettings history source).1 = .ok delay :=
  (evaluate_eq_ok_iff.mp reached).1.delayed delay rfl

theorem conclude_eq_ok {isFailure isAbortable : Bool} {facts : AttemptFacts}
    (reached :
      (policy.conclude power history isFailure isAbortable facts source).verdict = .ok verdict) :
    verdict.Fits isAbortable isFailure (policy.retriesExceeded history) ∧
      (policy.conclude power history isFailure isAbortable facts source).actions =
        policy.verdictActions facts verdict := by
  unfold conclude at reached ⊢
  cases isAbortable with
  | true =>
      simp only [if_true] at reached ⊢
      obtain ⟨rfl, shown⟩ := noted_announce_eq_ok reached
      exact ⟨rfl, shown⟩
  | false =>
      cases isFailure with
      | false =>
          cases reached
          exact ⟨⟨rfl, rfl⟩, rfl⟩
      | true =>
          simp only [Bool.false_eq_true, if_false, Bool.not_true] at reached ⊢
          cases exceeded : policy.retriesExceeded history with
          | true =>
              simp only [exceeded, if_true] at reached ⊢
              obtain ⟨rfl, shown⟩ := noted_announce_eq_ok reached
              exact ⟨⟨rfl, rfl, rfl⟩, shown⟩
          | false =>
              simp only [exceeded, Bool.false_eq_true, if_false] at reached ⊢
              rcases computed : Delay.compute power policy.toSettings history source with
                ⟨answer, drawn⟩
              rw [computed] at reached
              cases answer with
              | error error => cases reached
              | ok delay =>
                  obtain ⟨rfl, shown⟩ := noted_announce_eq_ok reached
                  exact ⟨⟨rfl, rfl, rfl⟩, shown⟩

theorem decide_eq_ok {isFailure isAbortable : Bool} {result : Value} {failure : Option Failure}
    (reached : (policy.decide power history isFailure isAbortable result failure source).verdict =
      .ok verdict) :
    verdict.Fits isAbortable isFailure (policy.retriesExceeded history) ∧
      (policy.decide power history isFailure isAbortable result failure source).actions =
        policy.failureActions (history.facts result failure) isFailure ++
          policy.verdictActions (history.facts result failure) verdict := by
  unfold decide failureActions at *
  cases isFailure with
  | false =>
      obtain ⟨fits, shown⟩ := conclude_eq_ok reached
      refine ⟨fits, ?_⟩
      simp only [Decision.after, Bool.false_eq_true, if_false]
      rw [shown]
  | true =>
      simp only [if_true] at reached ⊢
      rw [← Handlers.fire_actions]
      rcases fired : policy.handlers.fire .failedAttempt
        (.attempted (history.facts result failure)) with ⟨answer, announced⟩
      simp only [fired] at reached ⊢
      cases answer with
      | error raised => cases reached
      | ok told =>
          obtain ⟨fits, shown⟩ := conclude_eq_ok reached
          refine ⟨fits, ?_⟩
          simp only [Decision.after]
          rw [shown]

/-- A verdict that is reached fits the answers, and it determines what is shown. -/
theorem evaluate_eq_ok {outcome : Outcome}
    (reached : (policy.evaluate power history outcome source).verdict = .ok verdict) :
    ∃ isAbortable, (policy.isAbortable outcome.result outcome.failure).1 = .ok isAbortable ∧
      verdict.Fits isAbortable outcome.isFailure (policy.retriesExceeded history) ∧
      (policy.evaluate power history outcome source).actions =
        policy.conditionActions outcome.result outcome.failure ++
          (policy.failureActions (history.facts outcome.result outcome.failure)
              outcome.isFailure ++
            policy.verdictActions (history.facts outcome.result outcome.failure) verdict) := by
  unfold evaluate conditionActions at *
  rcases judged : policy.isAbortable outcome.result outcome.failure with ⟨answer, asked⟩
  simp only [judged] at reached ⊢
  cases answer with
  | error raised => cases reached
  | ok isAbortable =>
      obtain ⟨fits, shown⟩ := decide_eq_ok reached
      refine ⟨isAbortable, rfl, fits, ?_⟩
      simp only [Decision.after]
      rw [shown]

end Policy
end Reattempt
