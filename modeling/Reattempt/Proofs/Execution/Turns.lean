import Mathlib.Tactic
import Reattempt.Execution
import Reattempt.Proofs.Binary64.Sign
import Reattempt.Proofs.Decision.Evaluation
import Reattempt.Proofs.Field.Validation

/-!
# Turns of a run

What one turn can do (`Turned`), with everything that is later used about it: which actions it
shows, where the run stands then, and how the run ends if it does. A run is a series of turns that
each ended in a sleep, and one more turn (`runFrom_rounds`). All this is about operations that never
ask for another attempt themselves; a turn with such an attempt is not judged (`turn_askedAgain`).
-/

set_option autoImplicit false

namespace Reattempt

namespace RunSetup

variable {ρ κ : Type}

/-- What the attempt comes to that is made after a number of others. -/
def outcomeAfter (setup : RunSetup) (attempts : Nat) : Except Failure Value :=
  (setup.operation setup.arguments attempts).outcome

def NeverAsksAgain (setup : RunSetup) : Prop :=
  ∀ attempts, asksAgain (setup.outcomeAfter attempts) = false

/-- The reasons for which a run stops after an attempt: an abort condition matches, the attempt
does not count as a failure, or a limit is reached. -/
def StopsAfter (setup : RunSetup) (number : Int) (elapsed : Duration)
    (outcome : Except Failure Value) : Prop :=
  (∃ condition ∈ setup.policy.abortConditions,
    condition.rule.judge (resultOf outcome) (failureOf outcome) = .ok true) ∨
  (setup.classify outcome).1 = .ok false ∨
  (setup.policy.maxRetries ≠ -1 ∧ setup.policy.maxRetries + 1 ≤ number) ∨
  ∃ limit ∈ setup.policy.maxDuration, limit ≤ elapsed

def questions (setup : RunSetup) (outcome : Except Failure Value) : List Action :=
  (setup.classify outcome).2 ++
    setup.policy.conditionActions (resultOf outcome) (failureOf outcome)

def judgementActions (setup : RunSetup) (outcome : Except Failure Value) (isFailure : Bool)
    (verdict : Verdict) (history : History) : List Action :=
  setup.questions outcome ++
    (setup.policy.failureActions (history.facts (resultOf outcome) (failureOf outcome))
        isFailure ++
      (setup.policy.verdictActions (history.facts (resultOf outcome) (failureOf outcome)) verdict ++
        [Action.judged verdict history]))

/-! A view of the actions that is blind to the questions, or to the events too. -/

theorem filterMap_conditionActions {β : Type} {view : Action → Option β}
    (unasked : ∀ asked, view (.asked asked) = none) (policy : Policy) (result : Value)
    (failure : Option Failure) : (policy.conditionActions result failure).filterMap view = [] := by
  simp [Policy.conditionActions, unasked]

theorem filterMap_classify {β : Type} {view : Action → Option β}
    (unasked : ∀ asked, view (.asked asked) = none) (setup : RunSetup)
    (outcome : Except Failure Value) : (setup.classify outcome).2.filterMap view = [] := by
  unfold classify
  split
  · simp [unasked]
  · rfl

theorem filterMap_questions {β : Type} {view : Action → Option β}
    (unasked : ∀ asked, view (.asked asked) = none) (setup : RunSetup)
    (outcome : Except Failure Value) : (setup.questions outcome).filterMap view = [] := by
  simp only [questions, List.filterMap_append, filterMap_classify unasked,
    filterMap_conditionActions unasked, List.append_nil]

theorem filterMap_notice {β : Type} {view : Action → Option β}
    (unfired : ∀ occasion handler event, view (.fired occasion handler event) = none)
    (handlers : Handlers) (occasion : Occasion) (event : Event) :
    (handlers.notice occasion event).filterMap view = [] := by
  unfold Handlers.notice
  cases handlers.get occasion with
  | none => rfl
  | some handler => simp [unfired]

theorem filterMap_failureActions {β : Type} {view : Action → Option β}
    (unfired : ∀ occasion handler event, view (.fired occasion handler event) = none)
    (policy : Policy) (facts : AttemptFacts) (isFailure : Bool) :
    (policy.failureActions facts isFailure).filterMap view = [] := by
  unfold Policy.failureActions
  split
  · exact filterMap_notice unfired _ _ _
  · rfl

theorem filterMap_verdictActions {β : Type} {view : Action → Option β}
    (unfired : ∀ occasion handler event, view (.fired occasion handler event) = none)
    (policy : Policy) (facts : AttemptFacts) (verdict : Verdict) :
    (policy.verdictActions facts verdict).filterMap view = [] := by
  cases verdict with
  | succeed => rfl
  | abort => exact filterMap_notice unfired _ _ _
  | retriesExceeded => exact filterMap_notice unfired _ _ _
  | retry delay => exact filterMap_notice unfired _ _ _

theorem filterMap_announce {β ρ : Type} {view : Action → Option β}
    (unfired : ∀ occasion handler event, view (.fired occasion handler event) = none)
    (policy : Policy) (occasion : Occasion) (event : Event) (verdict : Verdict) (source : ρ) :
    (Decision.announce policy occasion event verdict source).actions.filterMap view = [] := by
  rw [Policy.announce_actions]
  exact filterMap_notice unfired _ _ _

theorem filterMap_noted {β ρ : Type} {view : Action → Option β} {decision : Decision ρ}
    (blind : decision.actions.filterMap view = []) (history : History) :
    (decision.noted history).actions.filterMap view = [] := by
  unfold Decision.noted
  split
  · exact blind
  · rfl

theorem filterMap_conclude {β ρ : Type} [RandomSource ρ] {view : Action → Option β}
    (unfired : ∀ occasion handler event, view (.fired occasion handler event) = none)
    (policy : Policy) (power : Power) (history : History) (isFailure isAbortable : Bool)
    (facts : AttemptFacts) (source : ρ) :
    (policy.conclude power history isFailure isAbortable facts source).actions.filterMap view =
      [] := by
  unfold Policy.conclude
  split
  · exact filterMap_noted (filterMap_announce unfired _ _ _ _ _) history
  · split
    · rfl
    · split
      · exact filterMap_noted (filterMap_announce unfired _ _ _ _ _) history
      · split
        · rfl
        · exact filterMap_noted (filterMap_announce unfired _ _ _ _ _) history

theorem filterMap_decide {β ρ : Type} [RandomSource ρ] {view : Action → Option β}
    (unfired : ∀ occasion handler event, view (.fired occasion handler event) = none)
    (policy : Policy) (power : Power) (history : History) (isFailure isAbortable : Bool)
    (result : Value) (failure : Option Failure) (source : ρ) :
    (policy.decide power history isFailure isAbortable result failure source).actions.filterMap
      view = [] := by
  have concluded := filterMap_conclude unfired policy power history isFailure isAbortable
    (history.facts result failure) source
  unfold Policy.decide
  cases isFailure with
  | false =>
      simp only [Bool.false_eq_true, if_false, Decision.after, List.nil_append]
      exact concluded
  | true =>
      have told : (policy.handlers.fire .failedAttempt
          (.attempted (history.facts result failure))).2.filterMap view = [] := by
        rw [Handlers.fire_actions]
        exact filterMap_notice unfired _ _ _
      simp only [if_true]
      split
      · exact told
      · simp only [Decision.after, List.filterMap_append, told, concluded, List.append_nil]

/-- An evaluation shows nothing but questions and events, even if it raises. -/
theorem filterMap_evaluate {β ρ : Type} [RandomSource ρ] {view : Action → Option β}
    (unasked : ∀ asked, view (.asked asked) = none)
    (unfired : ∀ occasion handler event, view (.fired occasion handler event) = none)
    (setup : RunSetup) (history : History) (outcome : Outcome) (source : ρ) :
    (setup.evaluate history outcome source).actions.filterMap view = [] := by
  have asked := filterMap_conditionActions unasked setup.policy outcome.result outcome.failure
  unfold evaluate
  split
  · unfold Policy.evaluate
    dsimp only
    split
    · exact asked
    · simp only [Decision.after, List.filterMap_append, filterMap_decide unfired, List.append_nil]
      exact asked
  · rfl

theorem filterMap_pause {β κ : Type} [Clock κ] {view : Action → Option β}
    (unslept : ∀ seconds, view (.slept seconds) = none) (delay : Duration)
    (progress : Progress ρ κ) : (pause delay progress).actions.filterMap view = [] := by
  unfold pause
  split
  · rfl
  · simp [unslept]

theorem filterMap_wait {β κ : Type} [Clock κ] {view : Action → Option β}
    (unslept : ∀ seconds, view (.slept seconds) = none) (verdict : Verdict)
    (outcome : Except Failure Value) (progress : Progress ρ κ) :
    (wait verdict outcome progress).actions.filterMap view = [] := by
  cases verdict with
  | succeed => rfl
  | abort => rfl
  | retriesExceeded => rfl
  | retry delay => exact filterMap_pause unslept delay progress

theorem filterMap_beforeAttempt {β κ : Type} {view : Action → Option β}
    (unfired : ∀ occasion handler event, view (.fired occasion handler event) = none)
    (setup : RunSetup) (progress : Progress ρ κ) :
    (setup.beforeAttempt progress).2.filterMap view = [] := by
  unfold beforeAttempt
  split
  · rfl
  · split
    · dsimp only
      rw [Handlers.fire_actions]
      exact filterMap_notice unfired _ _ _
    · rfl

theorem filterMap_judgementActions {β : Type} {view : Action → Option β}
    (unasked : ∀ asked, view (.asked asked) = none)
    (unfired : ∀ occasion handler event, view (.fired occasion handler event) = none)
    (setup : RunSetup) (outcome : Except Failure Value) (isFailure : Bool) (verdict : Verdict)
    (history : History) :
    (setup.judgementActions outcome isFailure verdict history).filterMap view =
      (view (.judged verdict history)).toList := by
  simp only [judgementActions, List.filterMap_append, filterMap_questions unasked,
    filterMap_failureActions unfired, filterMap_verdictActions unfired, List.nil_append]
  cases seen : view (.judged verdict history) <;> simp [seen]

/-- An attempt was judged: how it was classified and recorded, and which verdict was reached. -/
structure Judged (setup : RunSetup) (before : History) (outcome : Except Failure Value)
    (isFailure : Bool) (verdict : Verdict) (history : History) : Prop where
  classified : (setup.classify outcome).1 = .ok isFailure
  recorded : history =
    before.record ⟨resultOf outcome, failureOf outcome, isFailure⟩ history.elapsed
  elapsed_not_negative : .zero ≤ history.elapsed
  retried_failure : verdict.shouldRetry = true → isFailure = true
  stops_iff : verdict.shouldRetry = false ↔
    setup.StopsAfter history.attemptNumber history.elapsed outcome

theorem elapsedBetween_not_negative {started now : Binary64} {elapsed : Duration}
    (measured : elapsedBetween started now = .ok elapsed) : .zero ≤ elapsed := by
  refine Duration.ofSeconds_nonneg ?_ measured
  unfold Binary64.larger
  split
  · decide +kernel
  · assumption

/-- A verdict that fits the answers is no retry exactly if there is a reason to stop. -/
theorem fits_stops_iff {setup : RunSetup} {history : History} {outcome : Except Failure Value}
    {isAbortable isFailure : Bool} {verdict : Verdict}
    (classified : (setup.classify outcome).1 = .ok isFailure)
    (asked : (setup.policy.isAbortable (resultOf outcome) (failureOf outcome)).1 =
      .ok isAbortable)
    (fits : verdict.Fits isAbortable isFailure (setup.policy.retriesExceeded history)) :
    verdict.shouldRetry = false ↔
      setup.StopsAfter history.attemptNumber history.elapsed outcome := by
  have matching := AbortCondition.anyMatches_eq_ok setup.policy.abortConditions isAbortable asked
  have exceeded := Settings.retriesExceeded_iff setup.policy.toSettings history
  unfold StopsAfter
  rw [← matching, classified, ← exceeded]
  cases verdict with
  | abort =>
      have aborted : isAbortable = true := fits
      simp [Verdict.shouldRetry, aborted]
  | succeed =>
      obtain ⟨_, noFailure⟩ := fits
      simp [Verdict.shouldRetry, noFailure]
  | retriesExceeded =>
      obtain ⟨_, _, reached⟩ := fits
      simp [Verdict.shouldRetry, reached]
  | retry delay =>
      obtain ⟨notAborted, failed, within⟩ := fits
      simp [Verdict.shouldRetry, notAborted, failed, within]

theorem fits_retried_failure {isAbortable isFailure exceeded : Bool} {verdict : Verdict}
    (fits : verdict.Fits isAbortable isFailure exceeded) (retried : verdict.shouldRetry = true) :
    isFailure = true := by
  cases verdict with
  | retry delay => exact fits.2.1
  | abort => cases retried
  | succeed => cases retried
  | retriesExceeded => cases retried

/-! ## Turns -/

variable {setup : RunSetup}

def attemptAction (setup : RunSetup) (before : Progress ρ κ) : Action :=
  .attempt (before.attempts + 1) setup.arguments

/-- Everything a turn can do after its announcement: what it shows, where the run stands then, and
how the run ends if it does. -/
inductive Turned (setup : RunSetup) (before : Progress ρ κ) :
    List Action → Progress ρ κ → Option (Ending × Except Failure Value) → Prop
  | unannounced (stage : Stage) (raised : Failure)
      (announced : (setup.beforeAttempt before).1 = .error (stage, raised)) :
      Turned setup before [] before (some (.disturbed stage, .error raised))
  | unjudged (stage : Stage) (raised : Failure) (shown : List Action) (after : Progress ρ κ)
      (cause : stage = .evaluation ∨ ((stage = .classification ∨ stage = .measurement) ∧
        shown = (setup.classify (setup.outcomeAfter before.attempts)).2)) :
      Turned setup before (setup.attemptAction before :: shown) after
        (some (.disturbed stage, .error raised))
  | settled (isFailure : Bool) (verdict : Verdict) (history : History) (after : Progress ρ κ)
      (judged : setup.Judged before.history (setup.outcomeAfter before.attempts) isFailure verdict
        history)
      (final : verdict.shouldRetry = false) :
      Turned setup before
        (setup.attemptAction before ::
          setup.judgementActions (setup.outcomeAfter before.attempts) isFailure verdict history)
        after (some (.settled, setup.outcomeAfter before.attempts))
  | overflowed (delay : Duration) (history : History) (error : Duration.RangeError)
      (after : Progress ρ κ)
      (judged : setup.Judged before.history (setup.outcomeAfter before.attempts) true
        (.retry delay) history)
      (overflow : history.recordDelay delay = .error error) :
      Turned setup before
        (setup.attemptAction before ::
          setup.judgementActions (setup.outcomeAfter before.attempts) true (.retry delay) history)
        after (some (.disturbed .summation, .error (Failure.ofRangeError error)))
  | slept (delay : Duration) (history : History) (after : Progress ρ κ)
      (judged : setup.Judged before.history (setup.outcomeAfter before.attempts) true
        (.retry delay) history)
      (summed : history.recordDelay delay = .ok after.history)
      (counted : after.attempts = before.attempts + 1) :
      Turned setup before
        (setup.attemptAction before ::
          (setup.judgementActions (setup.outcomeAfter before.attempts) true (.retry delay)
              history ++
            [Action.slept delay.toSeconds]))
        after none

/-! ## Rounds -/

/-- An attempt that was followed by a sleep: its number, the history when it was judged, and the
delay. -/
structure Round where
  number : Nat
  history : History
  delay : Duration

def roundActions (setup : RunSetup) (round : Round) : List Action :=
  Action.attempt round.number setup.arguments ::
    (setup.judgementActions (setup.outcomeAfter (round.number - 1)) true (.retry round.delay)
        round.history ++
      Action.slept round.delay.toSeconds ::
        setup.policy.handlers.notice .retry
          (.attempted (round.history.facts round.history.lastResult round.history.lastFailure)))

theorem filterMap_roundActions {β : Type} {view : Action → Option β}
    (unasked : ∀ asked, view (.asked asked) = none)
    (unfired : ∀ occasion handler event, view (.fired occasion handler event) = none)
    (setup : RunSetup) (round : Round) :
    (setup.roundActions round).filterMap view =
      (view (.attempt round.number setup.arguments)).toList ++
        ((view (.judged (.retry round.delay) round.history)).toList ++
          (view (.slept round.delay.toSeconds)).toList) := by
  have judgementSeen := filterMap_judgementActions unasked unfired setup
    (setup.outcomeAfter (round.number - 1)) true (.retry round.delay) round.history
  simp only [roundActions, List.filterMap_cons, List.filterMap_append, judgementSeen,
    filterMap_notice unfired]
  cases view (.attempt round.number setup.arguments) <;>
    cases view (.slept round.delay.toSeconds) <;> rfl

/-- A series of turns that each ended in a sleep, from one attempt to another. -/
inductive Rounds (setup : RunSetup) : Progress ρ κ → List Round → Progress ρ κ → Prop
  | none (progress : Progress ρ κ) : Rounds setup progress [] progress
  | next {before after last : Progress ρ κ} {delay : Duration} {history : History}
      {rounds : List Round}
      (judged : setup.Judged before.history (setup.outcomeAfter before.attempts) true
        (.retry delay) history)
      (summed : history.recordDelay delay = .ok after.history)
      (counted : after.attempts = before.attempts + 1)
      (rest : Rounds setup after rounds last) :
      Rounds setup before (⟨before.attempts + 1, history, delay⟩ :: rounds) last

theorem recordDelay_eq_ok {history waited : History} {delay : Duration}
    (summed : history.recordDelay delay = .ok waited) :
    ∃ total, waited = { history with totalDelay := total } ∧
      total.microseconds = history.totalDelay.microseconds + delay.microseconds := by
  obtain ⟨total, added, same⟩ := (map_eq_ok_iff _ _ _).mp summed
  exact ⟨total, same.symm, Duration.add_eq_ok added⟩

theorem beforeAttempt_after_sleep {before after : Progress ρ κ} {history : History}
    {delay : Duration} (summed : history.recordDelay delay = .ok after.history)
    (counted : after.attempts = before.attempts + 1)
    (noted : ∀ raised, (setup.beforeAttempt after).1 ≠ .error (.note, raised)) :
    (setup.beforeAttempt after).2 =
      setup.policy.handlers.notice .retry
        (.attempted (history.facts history.lastResult history.lastFailure)) := by
  obtain ⟨total, waited, _⟩ := recordDelay_eq_ok summed
  have notFirst : ¬ after.attempts = 0 := by omega
  unfold beforeAttempt at noted ⊢
  rw [if_neg notFirst] at noted ⊢
  split at noted
  · rename_i writable
    rw [if_pos writable]
    dsimp only
    rw [Handlers.fire_actions, waited]
    rfl
  · exact absurd rfl (noted _)

/-! ## What turns do -/

variable [Clock κ]

theorem wait_turned {before reached : Progress ρ κ} {isFailure : Bool} {verdict : Verdict}
    (judged : setup.Judged before.history (setup.outcomeAfter before.attempts) isFailure verdict
      reached.history)
    (counted : reached.attempts = before.attempts + 1) :
    setup.Turned before
      (setup.attemptAction before ::
        (setup.judgementActions (setup.outcomeAfter before.attempts) isFailure verdict
            reached.history ++
          (wait verdict (setup.outcomeAfter before.attempts) reached).actions))
      (wait verdict (setup.outcomeAfter before.attempts) reached).progress
      (wait verdict (setup.outcomeAfter before.attempts) reached).ended := by
  cases verdict with
  | retry delay =>
      cases judged.retried_failure rfl
      cases summed : reached.history.recordDelay delay with
      | error error =>
          simp only [wait, pause, summed, List.append_nil]
          exact .overflowed delay reached.history error reached judged summed
      | ok waited =>
          simp only [wait, pause, summed]
          exact .slept delay reached.history _ judged summed counted
  | abort =>
      simp only [wait, List.append_nil]
      exact .settled isFailure .abort reached.history reached judged rfl
  | succeed =>
      simp only [wait, List.append_nil]
      exact .settled isFailure .succeed reached.history reached judged rfl
  | retriesExceeded =>
      simp only [wait, List.append_nil]
      exact .settled isFailure .retriesExceeded reached.history reached judged rfl

variable [RandomSource ρ] {started : Binary64}

/-! A judgement stage by stage: each of the three equations is about the first stage that fails, and
the last one leaves the rest to the decision. -/

theorem judge_unclassified {before : Progress ρ κ} {outcome : Except Failure Value}
    {raised : Failure} {asked : List Action}
    (classification : setup.classify outcome = (.error raised, asked)) :
    setup.judge started before outcome = (.error (.classification, raised), before, asked) := by
  unfold judge
  simp only [classification]

theorem judge_unmeasured {before : Progress ρ κ} {outcome : Except Failure Value}
    {isFailure : Bool} {asked : List Action} {error : Duration.RangeError}
    (classification : setup.classify outcome = (.ok isFailure, asked))
    (measured : elapsedBetween started (Clock.read before.clock).1 = .error error) :
    setup.judge started before outcome =
      (.error (.measurement, Failure.ofRangeError error),
        { before with clock := (Clock.read before.clock).2 }, asked) := by
  unfold judge
  simp only [classification, measured]

def decided (before : Progress ρ κ) (clock : κ) (history : History) (asked : List Action)
    (decision : Decision ρ) : Except (Stage × Failure) Verdict × Progress ρ κ × List Action :=
  let reached := { before with clock := clock, history := history, source := decision.source }
  match decision.verdict with
  | .error raised => (.error (.evaluation, raised), reached, asked ++ decision.actions)
  | .ok verdict =>
      (.ok verdict, reached, asked ++ decision.actions ++ [Action.judged verdict history])

theorem judge_decided {before : Progress ρ κ} {outcome : Except Failure Value}
    {isFailure : Bool} {asked : List Action} {elapsed : Duration}
    (classification : setup.classify outcome = (.ok isFailure, asked))
    (measured : elapsedBetween started (Clock.read before.clock).1 = .ok elapsed) :
    setup.judge started before outcome =
      decided before (Clock.read before.clock).2
        (before.history.record ⟨resultOf outcome, failureOf outcome, isFailure⟩ elapsed) asked
        (setup.evaluate
          (before.history.record ⟨resultOf outcome, failureOf outcome, isFailure⟩ elapsed)
          ⟨resultOf outcome, failureOf outcome, isFailure⟩ before.source) := by
  unfold judge
  simp only [classification, measured]
  rfl

/-- Only an engine reaches a verdict, and then it is the policy that decides. -/
theorem evaluate_eq_ok {history : History} {outcome : Outcome} {source : ρ} {verdict : Verdict}
    (reached : (setup.evaluate history outcome source).verdict = .ok verdict) :
    setup.evaluate history outcome source =
      setup.policy.evaluate setup.power history outcome source := by
  unfold evaluate at reached ⊢
  split at reached
  · rfl
  · cases reached

theorem judge_eq_ok {before reached : Progress ρ κ} {outcome : Except Failure Value}
    {verdict : Verdict} {shown : List Action}
    (judged : setup.judge started before outcome = (.ok verdict, reached, shown)) :
    ∃ isFailure, setup.Judged before.history outcome isFailure verdict reached.history ∧
      reached.attempts = before.attempts ∧
      shown = setup.judgementActions outcome isFailure verdict reached.history := by
  rcases classification : setup.classify outcome with ⟨answer, asked⟩
  cases answer with
  | error raised =>
      rw [judge_unclassified classification] at judged
      cases judged
  | ok isFailure =>
      cases measured : elapsedBetween started (Clock.read before.clock).1 with
      | error error =>
          rw [judge_unmeasured classification measured] at judged
          cases judged
      | ok elapsed =>
          rw [judge_decided classification measured, decided] at judged
          split at judged
          · cases judged
          · rename_i evaluated
            cases judged
            have byPolicy := evaluate_eq_ok evaluated
            rw [byPolicy] at evaluated ⊢
            obtain ⟨isAbortable, answered, fits, actions⟩ := Policy.evaluate_eq_ok evaluated
            have classified : (setup.classify outcome).1 = .ok isFailure := by
              rw [classification]
            refine ⟨isFailure, ⟨classified, rfl, elapsedBetween_not_negative measured,
              fits_retried_failure fits, fits_stops_iff classified answered fits⟩, rfl, ?_⟩
            rw [actions]
            simp only [judgementActions, questions, classification, List.append_assoc]

/-- If an attempt is not judged, then its classification, the clock or the evaluation failed. -/
theorem judge_eq_error {before reached : Progress ρ κ} {outcome : Except Failure Value}
    {stage : Stage} {raised : Failure} {shown : List Action}
    (judged : setup.judge started before outcome = (.error (stage, raised), reached, shown)) :
    stage = .evaluation ∨
      ((stage = .classification ∨ stage = .measurement) ∧
        shown = (setup.classify outcome).2) := by
  rcases classification : setup.classify outcome with ⟨answer, asked⟩
  cases answer with
  | error found =>
      rw [judge_unclassified classification] at judged
      cases judged
      exact Or.inr ⟨Or.inl rfl, rfl⟩
  | ok isFailure =>
      cases measured : elapsedBetween started (Clock.read before.clock).1 with
      | error error =>
          rw [judge_unmeasured classification measured] at judged
          cases judged
          exact Or.inr ⟨Or.inr rfl, rfl⟩
      | ok elapsed =>
          rw [judge_decided classification measured, decided] at judged
          split at judged
          · cases judged
            exact Or.inl rfl
          · cases judged

def judgedTurn (setup : RunSetup) (before : Progress ρ κ) (announced : List Action)
    (judgement : Except (Stage × Failure) Verdict × Progress ρ κ × List Action) : Turn ρ κ :=
  let shown := announced ++ setup.attemptAction before :: judgement.2.2
  match judgement.1 with
  | .error (stage, raised) => ⟨shown, judgement.2.1, some (.disturbed stage, .error raised)⟩
  | .ok verdict =>
      let waited := wait verdict (setup.outcomeAfter before.attempts) judgement.2.1
      { waited with actions := shown ++ waited.actions }

theorem turn_unannounced {before : Progress ρ κ} {stage : Stage} {raised : Failure}
    {announced : List Action}
    (announcement : setup.beforeAttempt before = (.error (stage, raised), announced)) :
    setup.turn started before = ⟨announced, before, some (.disturbed stage, .error raised)⟩ := by
  simp only [turn, announcement]

theorem turn_announced {before : Progress ρ κ} {announced : List Action}
    (announcement : setup.beforeAttempt before = (.ok (), announced))
    (judgeable : asksAgain (setup.outcomeAfter before.attempts) = false) :
    setup.turn started before =
      setup.judgedTurn before announced
        (setup.judge started (setup.attempted before) (setup.outcomeAfter before.attempts)) := by
  unfold turn
  rw [announcement]
  exact if_neg (ne_true_of_eq_false judgeable)

/-- An attempt that asks for another one is not judged: the run waits as long as before. -/
theorem turn_askedAgain {before : Progress ρ κ} {announced : List Action}
    (announcement : setup.beforeAttempt before = (.ok (), announced))
    (again : asksAgain (setup.outcomeAfter before.attempts) = true) :
    setup.turn started before =
      { pause before.delay (setup.attempted before) with
        actions := announced ++ setup.attemptAction before ::
          (pause before.delay (setup.attempted before)).actions } := by
  unfold turn
  rw [announcement]
  exact if_pos again

/-- A judgement shows questions, events and at most a verdict. -/
theorem filterMap_judge {β : Type} {view : Action → Option β}
    (unasked : ∀ asked, view (.asked asked) = none)
    (unfired : ∀ occasion handler event, view (.fired occasion handler event) = none)
    (unjudged : ∀ verdict history, view (.judged verdict history) = none) (setup : RunSetup)
    (started : Binary64) (before : Progress ρ κ) (outcome : Except Failure Value) :
    (setup.judge started before outcome).2.2.filterMap view = [] := by
  have classified := filterMap_classify unasked setup outcome
  rcases classification : setup.classify outcome with ⟨answer, asked⟩
  rw [classification] at classified
  cases answer with
  | error raised =>
      rw [judge_unclassified classification]
      exact classified
  | ok isFailure =>
      cases measured : elapsedBetween started (Clock.read before.clock).1 with
      | error error =>
          rw [judge_unmeasured classification measured]
          exact classified
      | ok elapsed =>
          rw [judge_decided classification measured, decided]
          split
          · simp only [List.filterMap_append, classified, filterMap_evaluate unasked unfired,
              List.append_nil]
          · simp only [List.filterMap_append, classified, filterMap_evaluate unasked unfired,
              List.filterMap_cons, unjudged, List.filterMap_nil, List.append_nil]

/-- What is seen of a turn by a view of attempts: its attempt, unless it ends before that. -/
theorem filterMap_turn {β : Type} {view : Action → Option β}
    (unasked : ∀ asked, view (.asked asked) = none)
    (unfired : ∀ occasion handler event, view (.fired occasion handler event) = none)
    (unjudged : ∀ verdict history, view (.judged verdict history) = none)
    (unslept : ∀ seconds, view (.slept seconds) = none) (setup : RunSetup) (started : Binary64)
    (before : Progress ρ κ) :
    (setup.turn started before).actions.filterMap view =
      match (setup.beforeAttempt before).1 with
      | .error _ => []
      | .ok () => (view (setup.attemptAction before)).toList := by
  have unannounced := filterMap_beforeAttempt unfired setup before
  have judged := filterMap_judge unasked unfired unjudged setup started (setup.attempted before)
    (setup.outcomeAfter before.attempts)
  rcases announcement : setup.beforeAttempt before with ⟨ready, announced⟩
  rw [announcement] at unannounced
  cases ready with
  | error raised =>
      rw [turn_unannounced announcement]
      exact unannounced
  | ok told =>
      cases again : asksAgain (setup.outcomeAfter before.attempts) with
      | true =>
          rw [turn_askedAgain announcement again]
          simp only [List.filterMap_append, List.filterMap_cons, unannounced,
            filterMap_pause unslept, List.nil_append]
          cases view (setup.attemptAction before) <;> rfl
      | false =>
          rw [turn_announced announcement again, judgedTurn]
          split
          · simp only [List.filterMap_append, List.filterMap_cons, unannounced, judged,
              List.nil_append]
            cases view (setup.attemptAction before) <;> rfl
          · simp only [List.filterMap_append, List.filterMap_cons, unannounced, judged,
              filterMap_wait unslept, List.nil_append, List.append_nil]
            cases view (setup.attemptAction before) <;> rfl

theorem turn_turned (started : Binary64) {before : Progress ρ κ}
    (judgeable : asksAgain (setup.outcomeAfter before.attempts) = false) :
    ∃ shown, (setup.turn started before).actions = (setup.beforeAttempt before).2 ++ shown ∧
      setup.Turned before shown (setup.turn started before).progress
        (setup.turn started before).ended := by
  rcases announcement : setup.beforeAttempt before with ⟨ready, announced⟩
  cases ready with
  | error raised =>
      rw [turn_unannounced announcement]
      exact ⟨[], (List.append_nil _).symm,
        .unannounced raised.1 raised.2 (by rw [announcement])⟩
  | ok told =>
      rw [turn_announced announcement judgeable]
      rcases judgement : setup.judge started (setup.attempted before)
        (setup.outcomeAfter before.attempts) with ⟨judged, reached, shown⟩
      cases judged with
      | error cause =>
          obtain ⟨stage, raised⟩ := cause
          exact ⟨_, rfl, .unjudged stage raised shown reached (judge_eq_error judgement)⟩
      | ok verdict =>
          obtain ⟨isFailure, holds, counted, rfl⟩ := judge_eq_ok judgement
          refine ⟨_, ?_, wait_turned holds counted⟩
          simp only [judgedTurn, List.append_assoc, List.cons_append]

/-! ## Runs -/

theorem runFrom_ended {first : Progress ρ κ} {ending : Ending} {outcome : Except Failure Value}
    (ended : (setup.turn started first).ended = some (ending, outcome)) (sleeps : Nat) :
    setup.runFrom started sleeps first =
      ⟨outcome, ending, (setup.turn started first).actions,
        (setup.turn started first).progress⟩ := by
  unfold runFrom
  simp only [ended]

theorem runFrom_refused {first : Progress ρ κ}
    (goesOn : (setup.turn started first).ended = none) :
    setup.runFrom started 0 first =
      ⟨.error setup.sleepRefusal, .refused, (setup.turn started first).actions,
        (setup.turn started first).progress⟩ := by
  unfold runFrom
  simp only [goesOn]

theorem runFrom_slept {first : Progress ρ κ}
    (goesOn : (setup.turn started first).ended = none) (sleeps : Nat) :
    setup.runFrom started (sleeps + 1) first =
      (setup.runFrom started sleeps (setup.turn started first).progress).after
        (setup.turn started first).actions := by
  conv_lhs => unfold runFrom
  simp only [goesOn]

/-- What the first turn shows is shown first by the whole run. -/
theorem runFrom_shows_turn (setup : RunSetup) (started : Binary64) (sleeps : Nat)
    (first : Progress ρ κ) :
    (setup.turn started first).actions <+: (setup.runFrom started sleeps first).actions := by
  cases ended : (setup.turn started first).ended with
  | some result =>
      rw [runFrom_ended ended]
  | none =>
      cases sleeps with
      | zero => rw [runFrom_refused ended]
      | succ sleeps =>
          rw [runFrom_slept ended]
          exact List.prefix_append _ _

theorem runFrom_unannounced {first : Progress ρ κ} {stage : Stage} {raised : Failure}
    (announced : (setup.beforeAttempt first).1 = .error (stage, raised)) (sleeps : Nat) :
    (setup.runFrom started sleeps first).ending = .disturbed stage := by
  rcases announcement : setup.beforeAttempt first with ⟨answer, shown⟩
  rw [announcement] at announced
  cases announced
  have ended : (setup.turn started first).ended =
      some (.disturbed stage, .error raised) := by
    rw [turn_unannounced announcement]
  rw [runFrom_ended ended]

/-- A run is a series of rounds and one more turn, which either ends it or ends in a sleep that is
refused. -/
theorem runFrom_rounds (judgeable : setup.NeverAsksAgain) (started : Binary64) (sleeps : Nat) :
    ∀ first : Progress ρ κ,
      (setup.runFrom started sleeps first).ending ≠ .disturbed .note →
      ∃ rounds last shown after ended,
      setup.Rounds first rounds last ∧ setup.Turned last shown after ended ∧
      (setup.runFrom started sleeps first).actions =
        (setup.beforeAttempt first).2 ++ (rounds.flatMap setup.roundActions ++ shown) ∧
      ((setup.runFrom started sleeps first).ending,
          (setup.runFrom started sleeps first).outcome) =
        ended.getD (.refused, .error setup.sleepRefusal) ∧
      (ended = none → rounds.length = sleeps) := by
  induction sleeps with
  | zero =>
      intro first _
      obtain ⟨shown, actions, turned⟩ := turn_turned started (judgeable first.attempts)
      refine ⟨[], first, shown, _, _, .none first, turned, ?_⟩
      cases ended : (setup.turn started first).ended with
      | none =>
          rw [runFrom_refused ended]
          exact ⟨actions, rfl, fun _ => rfl⟩
      | some result =>
          rw [runFrom_ended ended]
          exact ⟨actions, rfl, fun absent => by cases absent⟩
  | succ sleeps ih =>
      intro first noted
      obtain ⟨shown, actions, turned⟩ := turn_turned started (judgeable first.attempts)
      cases ended : (setup.turn started first).ended with
      | some result =>
          refine ⟨[], first, shown, _, _, .none first, turned, ?_⟩
          rw [runFrom_ended ended, ended]
          exact ⟨actions, rfl, fun absent => by cases absent⟩
      | none =>
          rw [runFrom_slept ended] at noted ⊢
          obtain ⟨rounds, last, lastShown, after, lastEnded, reached, lastTurned, lastActions,
            ends, exhausted⟩ := ih (setup.turn started first).progress noted
          rw [ended] at turned
          generalize (setup.turn started first).progress = next at *
          cases turned with
          | slept delay history _ judged summed counted =>
              refine ⟨_, last, lastShown, after, lastEnded,
                .next judged summed counted reached, lastTurned, ?_, ends, ?_⟩
              -- the announcement that opens the next turn closes this round
              · have nextNoted (raised : Failure) :
                    (setup.beforeAttempt next).1 ≠ .error (.note, raised) :=
                  fun unnoted => noted (runFrom_unannounced unnoted sleeps)
                rw [beforeAttempt_after_sleep summed counted nextNoted] at lastActions
                simp only [Execution.after, actions, lastActions, List.flatMap_cons, roundActions,
                  attemptAction, Nat.add_sub_cancel, List.append_assoc, List.cons_append,
                  List.nil_append]
              · intro absent
                rw [List.length_cons, exhausted absent]

end RunSetup
end Reattempt
