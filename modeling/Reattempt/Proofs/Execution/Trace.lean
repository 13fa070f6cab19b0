import Mathlib.Tactic
import Reattempt.Proofs.Execution.Stopping

/-!
# What a run shows

If there is a handler for each occasion and nothing gets out of them, then everything that a run
shows is known from its attempts, the delays between them and the last verdict (`run_trace`).
-/

set_option autoImplicit false

namespace Reattempt

namespace Action

def event? (occasion : Occasion) : Action → Option Event
  | .fired happened _ event => if happened = occasion then some event else none
  | _ => none

def sleep? : Action → Option Binary64
  | .slept seconds => some seconds
  | _ => none

end Action

namespace Execution

variable {ρ κ : Type}

def events (execution : Execution ρ κ) (occasion : Occasion) : List Event :=
  execution.actions.filterMap (Action.event? occasion)

def sleeps (execution : Execution ρ κ) : List Binary64 :=
  execution.actions.filterMap Action.sleep?

end Execution

namespace RunSetup

variable {ρ κ : Type} {setup : RunSetup} {watch : Occasion → Handler}

/-! ## Segments -/

def WatchedBy (setup : RunSetup) (watch : Occasion → Handler) : Prop :=
  ∀ occasion, setup.policy.handlers.get occasion = some (watch occasion)

def factsOf (setup : RunSetup) (number : Nat) (elapsed : Duration) : AttemptFacts :=
  ⟨resultOf (setup.outcomeAfter (number - 1)), failureOf (setup.outcomeAfter (number - 1)), number,
    elapsed⟩

def verdictTrace (watch : Occasion → Handler) (facts : AttemptFacts) : Verdict → List Action
  | .succeed => []
  | .abort => [.fired .abort (watch .abort) (.completed facts)]
  | .retriesExceeded => [.fired .retriesExceeded (watch .retriesExceeded) (.completed facts)]
  | .retry delay => [.fired .retryScheduled (watch .retryScheduled) (.scheduled facts delay)]

/-- An attempt with what is shown about it until the verdict is reached. -/
def attemptTrace (setup : RunSetup) (watch : Occasion → Handler) (number : Nat)
    (isFailure : Bool) (verdict : Verdict) (history : History) : List Action :=
  let facts := setup.factsOf number history.elapsed
  .attempt number setup.arguments ::
    (setup.questions (setup.outcomeAfter (number - 1)) ++
      ((if isFailure then [.fired .failedAttempt (watch .failedAttempt) (.attempted facts)]
        else []) ++
        (verdictTrace watch facts verdict ++ [.judged verdict history])))

def waitTrace (watch : Occasion → Handler) (facts : AttemptFacts) (delay : Duration) :
    List Action :=
  [.slept delay.toSeconds, .fired .retry (watch .retry) (.attempted facts)]

def roundTrace (setup : RunSetup) (watch : Occasion → Handler) (round : Round) : List Action :=
  setup.attemptTrace watch round.number true (.retry round.delay) round.history ++
    waitTrace watch (setup.factsOf round.number round.history.elapsed) round.delay

/-- What a run shows from its last attempt on: all of it if a verdict ended the run, and otherwise
what comes before the classification, the clock, the sum of the delays or the sleep that failed. -/
inductive ClosesWith (setup : RunSetup) (watch : Occasion → Handler) (number : Nat) :
    Ending → List Action → Prop
  | settled (isFailure : Bool) (verdict : Verdict) (history : History)
      (classified : (setup.classify (setup.outcomeAfter (number - 1))).1 = .ok isFailure)
      (final : verdict.shouldRetry = false) :
      ClosesWith setup watch number .settled
        (setup.attemptTrace watch number isFailure verdict history)
  | unjudged (stage : Stage) (early : stage = .classification ∨ stage = .measurement) :
      ClosesWith setup watch number (.disturbed stage)
        (.attempt number setup.arguments ::
          (setup.classify (setup.outcomeAfter (number - 1))).2)
  | overflowed (delay : Duration) (history : History) :
      ClosesWith setup watch number (.disturbed .summation)
        (setup.attemptTrace watch number true (.retry delay) history)
  | refused (delay : Duration) (history : History) :
      ClosesWith setup watch number .refused
        (setup.attemptTrace watch number true (.retry delay) history ++ [.slept delay.toSeconds])

theorem notice_watched (watched : setup.WatchedBy watch) (occasion : Occasion) (event : Event) :
    setup.policy.handlers.notice occasion event = [.fired occasion (watch occasion) event] := by
  rw [Handlers.notice, watched occasion]
  rfl

theorem verdictActions_watched (watched : setup.WatchedBy watch) (facts : AttemptFacts)
    (verdict : Verdict) :
    setup.policy.verdictActions facts verdict = verdictTrace watch facts verdict := by
  cases verdict with
  | succeed => rfl
  | abort => exact notice_watched watched _ _
  | retriesExceeded => exact notice_watched watched _ _
  | retry delay => exact notice_watched watched _ _

theorem facts_of_remembers {earlier : List Judgement} {history : History}
    (remembers : setup.Remembers earlier history) :
    history.facts (resultOf (setup.outcomeAfter earlier.length))
        (failureOf (setup.outcomeAfter earlier.length)) =
      setup.factsOf (earlier.length + 1) history.elapsed := by
  rw [History.facts, remembers.attemptNumber]
  rfl

theorem attemptTrace_of_remembers (watched : setup.WatchedBy watch) {earlier : List Judgement}
    {history : History} (remembers : setup.Remembers earlier history) (isFailure : Bool)
    (verdict : Verdict) :
    Action.attempt (earlier.length + 1) setup.arguments ::
        setup.judgementActions (setup.outcomeAfter earlier.length) isFailure verdict history =
      setup.attemptTrace watch (earlier.length + 1) isFailure verdict history := by
  rw [judgementActions, facts_of_remembers remembers, verdictActions_watched watched,
    Policy.failureActions, notice_watched watched]
  rfl

theorem roundActions_watched (watched : setup.WatchedBy watch) {earlier : List Judgement}
    {round : Round} (goesOn : round.GoesOn setup earlier) :
    setup.roundActions round = setup.roundTrace watch round := by
  have remembers := goesOn.remembers
  rw [roundActions, roundTrace, goesOn.number, ← attemptTrace_of_remembers watched remembers,
    remembers.lastResult, remembers.lastFailure, facts_of_remembers remembers,
    notice_watched watched]
  rfl

/-! ## Counting -/

theorem length_roundTraces {β : Type} {view : Action → Option β} {count : Nat}
    (each : ∀ round, ((setup.roundTrace watch round).filterMap view).length = count)
    (rounds : List Round) :
    ((rounds.flatMap (setup.roundTrace watch)).filterMap view).length = rounds.length * count := by
  induction rounds with
  | nil => simp
  | cons round rounds ih =>
      rw [List.flatMap_cons, List.filterMap_append, List.length_append, ih, each,
        List.length_cons]
      ring

/-- A view of an attempt that is blind to everything up to the announcement of its failure. -/
theorem filterMap_attemptTrace {β : Type} {view : Action → Option β}
    (unseen : ∀ number, view (.attempt number setup.arguments) = none)
    (unasked : ∀ asked, view (.asked asked) = none)
    (unfailed : ∀ handler event, view (.fired .failedAttempt handler event) = none)
    (unjudged : ∀ verdict history, view (.judged verdict history) = none)
    (number : Nat) (isFailure : Bool) (verdict : Verdict) (history : History) :
    (setup.attemptTrace watch number isFailure verdict history).filterMap view =
      (verdictTrace watch (setup.factsOf number history.elapsed) verdict).filterMap view := by
  have failureUnseen (facts : AttemptFacts) :
      ((if isFailure then [Action.fired .failedAttempt (watch .failedAttempt) (.attempted facts)]
        else []).filterMap view) = [] := by
    cases isFailure with
    | false => rfl
    | true => simp [unfailed]
  simp only [attemptTrace, List.filterMap_cons, unseen, List.filterMap_append,
    filterMap_questions unasked, failureUnseen, unjudged, List.filterMap_nil, List.nil_append,
    List.append_nil]

/-- How often things happen in a run that is settled after some retries. -/
structure Counts (retries : Nat) (execution : Execution ρ κ) : Prop where
  retry : (execution.events .retry).length = retries
  retryScheduled : (execution.events .retryScheduled).length = retries
  sleeps : execution.sleeps.length = retries
  completed : (execution.events .abort).length + (execution.events .retriesExceeded).length ≤ 1

theorem length_filterMap_settled {β : Type} {view : Action → Option β} {count : Nat}
    (unseen : ∀ number, view (.attempt number setup.arguments) = none)
    (unasked : ∀ asked, view (.asked asked) = none)
    (unfailed : ∀ handler event, view (.fired .failedAttempt handler event) = none)
    (unjudged : ∀ verdict history, view (.judged verdict history) = none)
    (each : ∀ facts delay,
      ((verdictTrace watch facts (.retry delay) ++ waitTrace watch facts delay).filterMap
        view).length = count)
    (rounds : List Round) (number : Nat) (isFailure : Bool) (verdict : Verdict)
    (history : History) :
    ((rounds.flatMap (setup.roundTrace watch) ++
        setup.attemptTrace watch number isFailure verdict history).filterMap view).length =
      rounds.length * count +
        ((verdictTrace watch (setup.factsOf number history.elapsed) verdict).filterMap
          view).length := by
  have eachRound (round : Round) :
      ((setup.roundTrace watch round).filterMap view).length = count := by
    rw [roundTrace, List.filterMap_append,
      filterMap_attemptTrace unseen unasked unfailed unjudged, ← List.filterMap_append]
    exact each _ _
  rw [List.filterMap_append, List.length_append, length_roundTraces eachRound,
    filterMap_attemptTrace unseen unasked unfailed unjudged]

theorem counts_settled {execution : Execution ρ κ} {rounds : List Round} {number : Nat}
    {isFailure : Bool} {verdict : Verdict} {history : History}
    (actions : execution.actions = rounds.flatMap (setup.roundTrace watch) ++
      setup.attemptTrace watch number isFailure verdict history)
    (final : verdict.shouldRetry = false) : Counts rounds.length execution := by
  have events (occasion : Occasion) (unfailed : occasion ≠ .failedAttempt) (count : Nat)
      (each : ∀ facts delay,
        ((verdictTrace watch facts (.retry delay) ++ waitTrace watch facts delay).filterMap
          (Action.event? occasion)).length = count) :
      (execution.events occasion).length = rounds.length * count +
        ((verdictTrace watch (setup.factsOf number history.elapsed) verdict).filterMap
          (Action.event? occasion)).length := by
    rw [Execution.events, actions]
    exact length_filterMap_settled (fun _ => rfl) (fun _ => rfl)
      (fun _ _ => if_neg unfailed.symm) (fun _ _ => rfl) each rounds number isFailure verdict
      history
  have sleeps : execution.sleeps.length = rounds.length * 1 +
      ((verdictTrace watch (setup.factsOf number history.elapsed) verdict).filterMap
        Action.sleep?).length := by
    rw [Execution.sleeps, actions]
    exact length_filterMap_settled (fun _ => rfl) (fun _ => rfl) (fun _ _ => rfl)
      (fun _ _ => rfl) (fun _ _ => rfl) rounds number isFailure verdict history
  have retry := events .retry (by decide) 1 (fun _ _ => rfl)
  have retryScheduled := events .retryScheduled (by decide) 1 (fun _ _ => rfl)
  have abort := events .abort (by decide) 0 (fun _ _ => rfl)
  have retriesExceeded := events .retriesExceeded (by decide) 0 (fun _ _ => rfl)
  have noSleep : (verdictTrace watch (setup.factsOf number history.elapsed) verdict).filterMap
      Action.sleep? = [] := by
    cases verdict <;> rfl
  have noRetry : (verdictTrace watch (setup.factsOf number history.elapsed) verdict).filterMap
      (Action.event? .retry) = [] := by
    cases verdict <;> rfl
  have noSchedule : (verdictTrace watch (setup.factsOf number history.elapsed)
      verdict).filterMap (Action.event? .retryScheduled) = [] := by
    cases verdict with
    | retry delay => cases final
    | succeed => rfl
    | abort => rfl
    | retriesExceeded => rfl
  refine ⟨?_, ?_, ?_, ?_⟩
  · rw [retry, noRetry, Nat.mul_one, List.length_nil, Nat.add_zero]
  · rw [retryScheduled, noSchedule, Nat.mul_one, List.length_nil, Nat.add_zero]
  · rw [sleeps, noSleep, Nat.mul_one, List.length_nil, Nat.add_zero]
  · rw [abort, retriesExceeded]
    cases verdict <;> simp [verdictTrace, Action.event?]

/-! ## Runs -/

variable [RandomSource ρ] [Clock κ]

/-- What a run shows, if its operation never asks for another attempt, nothing gets out of its
handlers, no evaluation fails and every attempt can be noted: all rounds, one after the other, and
what is shown from the last attempt on. -/
theorem run_trace (setup : RunSetup) (watch : Occasion → Handler) (clock : κ) (sleeps : Nat)
    (source : ρ) (judgeable : setup.NeverAsksAgain) (watched : setup.WatchedBy watch)
    (quiet : ∀ occasion event raised,
      (watch occasion).raises event = some raised → raised.escaped = none)
    (evaluated : (setup.run clock sleeps source).ending ≠ .disturbed .evaluation)
    (noted : (setup.run clock sleeps source).ending ≠ .disturbed .note) :
    ∃ (rounds : List Round) (closing : List Action),
      rounds.map Round.number = List.range' 1 rounds.length ∧
      (setup.run clock sleeps source).actions =
        rounds.flatMap (setup.roundTrace watch) ++ closing ∧
      setup.ClosesWith watch (rounds.length + 1) (setup.run clock sleeps source).ending closing ∧
      ((setup.run clock sleeps source).ending = .settled →
        Counts rounds.length (setup.run clock sleeps source)) := by
  obtain ⟨rounds, last, shown, after, ended, stands, goOn, numbers, turned, actions, ends, _⟩ :=
    run_rounds judgeable clock sleeps source noted
  obtain ⟨ending, _⟩ := Prod.mk.inj ends
  have attempted : last.attempts = rounds.length := by
    rw [stands.attempts, List.length_map]
  have sameRounds : rounds.flatMap setup.roundActions =
      rounds.flatMap (setup.roundTrace watch) := by
    refine List.flatMap_congr fun round member => ?_
    obtain ⟨passed, later, split⟩ := List.append_of_mem member
    exact roundActions_watched watched (goOn passed round later split)
  have lastTrace {isFailure : Bool} {verdict : Verdict} {history : History}
      (judged : setup.Judged last.history (setup.outcomeAfter last.attempts) isFailure verdict
        history) :
      setup.attemptAction last ::
          setup.judgementActions (setup.outcomeAfter last.attempts) isFailure verdict history =
        setup.attemptTrace watch (rounds.length + 1) isFailure verdict history := by
    rw [attemptAction, stands.attempts,
      attemptTrace_of_remembers watched (judged.remembers stands), List.length_map]
  rw [sameRounds] at actions
  rw [ending] at evaluated noted ⊢
  cases turned with
  | unannounced stage raised announced =>
      obtain ⟨_, _, handler, event, handles, answer, raises, escapes⟩ :=
        beforeAttempt_eq_error announced fun same => noted (congrArg Ending.disturbed same)
      cases Option.some.inj (handles.symm.trans (watched .retry))
      rw [quiet .retry event answer raises] at escapes
      cases escapes
  | unjudged stage raised shown after cause =>
      rcases cause with rfl | ⟨early, rfl⟩
      · exact absurd rfl evaluated
      · refine ⟨rounds, _, numbers, actions, ?_, fun settled => by cases settled⟩
        rw [attemptAction, attempted]
        exact .unjudged stage early
  | settled isFailure verdict history after judged final =>
      rw [lastTrace judged] at actions
      refine ⟨rounds, _, numbers, actions, ?_, fun _ => counts_settled actions final⟩
      refine .settled isFailure verdict history ?_ final
      rw [Nat.add_sub_cancel, ← attempted]
      exact judged.classified
  | overflowed delay history error after judged overflow =>
      rw [lastTrace judged] at actions
      exact ⟨rounds, _, numbers, actions, .overflowed delay history,
        fun settled => by cases settled⟩
  | slept delay history after judged summed counted =>
      rw [← List.cons_append, lastTrace judged] at actions
      exact ⟨rounds, _, numbers, actions, .refused delay history,
        fun settled => by cases settled⟩

/-! ## Two runs of two attempts -/

def quietHandler : Handler := ⟨.own 1, "quiet", fun _ => none⟩

def quietHandlers : Handlers :=
  ⟨some quietHandler, some quietHandler, some quietHandler, some quietHandler, some quietHandler⟩

def watchedPolicy : Policy := ⟨{ handlers := quietHandlers }, by decide +kernel⟩

/-- A run with one retry. -/
theorem run_trace_of_success :
    ∃ (rounds : List Round) (closing : List Action),
      ((failingOnce watchedPolicy).run Binary64.zero 5 noNumbers).actions =
        rounds.flatMap ((failingOnce watchedPolicy).roundTrace fun _ => quietHandler) ++ closing ∧
      rounds.length = 1 ∧
      (((failingOnce watchedPolicy).run Binary64.zero 5 noNumbers).events .retry).length = 1 := by
  have settles :
      ((failingOnce watchedPolicy).run Binary64.zero 5 noNumbers).ending = .settled := by
    decide +kernel
  have slept :
      ((failingOnce watchedPolicy).run Binary64.zero 5 noNumbers).sleeps.length = 1 := by
    decide +kernel
  obtain ⟨rounds, closing, _, actions, _, counts⟩ :=
    run_trace (failingOnce watchedPolicy) (fun _ => quietHandler) Binary64.zero 5 noNumbers
      (failingOnce_neverAsksAgain watchedPolicy) (by intro occasion; cases occasion <;> rfl)
      (by intro occasion event raised raises; cases raises)
      (by rw [settles]; decide) (by rw [settles]; decide)
  have counted := counts settles
  have one : rounds.length = 1 := counted.sleeps.symm.trans slept
  exact ⟨rounds, closing, actions, one, counted.retry.trans one⟩

/-- A policy with the greatest delay in whole days. -/
def endlessPolicy : Policy :=
  ⟨{ delay := ⟨86399999913600000000, by decide⟩, handlers := quietHandlers }, by decide +kernel⟩

def failingAlways (policy : Policy) : RunSetup :=
  { failingOnce policy with operation := fun _ _ => ⟨.zero, .error (.valueError "again")⟩ }

/-- The sum of two such delays is no duration. The run ends after the second attempt, when a third
one was already announced. And after an attempt that asks for another one, no retry is scheduled,
but one starts. -/
theorem run_overflows_after_scheduling :
    ((failingAlways endlessPolicy).run Binary64.zero 5 noNumbers).ending =
        .disturbed .summation ∧
      ((failingAlways endlessPolicy).run Binary64.zero 5 noNumbers).attemptNumbers = [1, 2] ∧
      (((failingAlways endlessPolicy).run Binary64.zero 5 noNumbers).events
        .retryScheduled).length = 2 ∧
      (((failingAlways endlessPolicy).run Binary64.zero 5 noNumbers).events .retry).length = 1 ∧
      ((failingAlways endlessPolicy).run Binary64.zero 5 noNumbers).sleeps.length = 1 ∧
      (failingAlways endlessPolicy).WatchedBy (fun _ => quietHandler) ∧
      ((askingOnce watchedPolicy).run Binary64.zero 5 noNumbers).ending = .settled ∧
      ((askingOnce watchedPolicy).run Binary64.zero 5 noNumbers).attemptNumbers = [1, 2] ∧
      ((askingOnce watchedPolicy).run Binary64.zero 5 noNumbers).events .retryScheduled = [] ∧
      (((askingOnce watchedPolicy).run Binary64.zero 5 noNumbers).events .retry).length = 1 := by
  have watched : (failingAlways endlessPolicy).WatchedBy (fun _ => quietHandler) := by
    intro occasion
    cases occasion <;> rfl
  have unscheduled :
      (((askingOnce watchedPolicy).run Binary64.zero 5 noNumbers).events .retryScheduled).length =
        0 := by
    decide +kernel
  exact ⟨by decide +kernel, by decide +kernel, by decide +kernel, by decide +kernel,
    by decide +kernel, watched, by decide +kernel, by decide +kernel,
    List.eq_nil_of_length_eq_zero unscheduled, by decide +kernel⟩

end RunSetup
end Reattempt
