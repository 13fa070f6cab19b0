import Mathlib.Tactic
import Reattempt.Proofs.Execution.Stopping

/-!
# Handlers only observe

A run under handlers that nothing gets out of is the run without any handlers, with the calls of the
handlers put in (`run_unheard`). Two policies that differ in their handlers at most therefore make
the same runs (`run_same_for_other_handlers`). A failure that cannot be shown gets out of a handler.
-/

set_option autoImplicit false

namespace Reattempt

namespace Action

def isFired : Action → Bool
  | .fired _ _ _ => true
  | _ => false

def unheard (actions : List Action) : List Action := actions.filter fun action => !action.isFired

theorem unheard_append (early late : List Action) :
    unheard (early ++ late) = unheard early ++ unheard late :=
  List.filter_append early late

theorem unheard_asked (asked : List Asked) :
    unheard (asked.map Action.asked) = asked.map Action.asked := by
  refine List.filter_eq_self.mpr fun action member => ?_
  obtain ⟨question, _, rfl⟩ := List.mem_map.mp member
  rfl

end Action

namespace Decision

variable {ρ : Type}

def unheard (decision : Decision ρ) : Decision ρ :=
  { decision with actions := Action.unheard decision.actions }

theorem unheard_after (actions : List Action) (decision : Decision ρ) :
    (decision.after actions).unheard = decision.unheard.after (Action.unheard actions) := by
  simp only [unheard, after, Action.unheard_append]

end Decision

namespace Execution

variable {ρ κ : Type}

/-- The execution without what handlers were told: how it ended, where it stood then, and the
attempts, the questions, the verdicts and the sleeps. -/
def unheard (execution : Execution ρ κ) : Execution ρ κ :=
  { execution with actions := Action.unheard execution.actions }

theorem unheard_after (actions : List Action) (execution : Execution ρ κ) :
    (execution.after actions).unheard = execution.unheard.after (Action.unheard actions) := by
  simp only [unheard, after, Action.unheard_append]

end Execution

namespace Handlers

/-- Nothing gets out of the handlers: they raise nothing but ordinary failures that can be shown. -/
def Quiet (handlers : Handlers) : Prop :=
  ∀ occasion handler event raised, handlers.get occasion = some handler →
    handler.raises event = some raised → raised.escaped = none

theorem fire_of_quiet {handlers : Handlers} (quiet : handlers.Quiet)
    (occasion : Occasion) (event : Event) :
    handlers.fire occasion event = (.ok (), handlers.notice occasion event) := by
  have shown := handlers.fire_actions occasion event
  cases answer : (handlers.fire occasion event).1 with
  | ok told => exact Prod.ext answer shown
  | error raised =>
      obtain ⟨handler, handles, answered, raises, escapes⟩ := (fire_eq_error_iff _ _ _ _).mp answer
      rw [quiet occasion handler event answered handles raises] at escapes
      cases escapes

theorem unheard_notice (handlers : Handlers) (occasion : Occasion) (event : Event) :
    Action.unheard (handlers.notice occasion event) = [] := by
  unfold notice
  cases handlers.get occasion with
  | none => rfl
  | some handler => rfl

end Handlers

/-! ## Evaluations -/

namespace Policy

variable {ρ : Type} {policy : Policy}

def withHandlers (policy : Policy) (handlers : Handlers) : Policy :=
  ⟨{ policy.toSettings with handlers := handlers }, policy.sound⟩

def withoutHandlers (policy : Policy) : Policy := policy.withHandlers {}

theorem announce_unheard (quiet : policy.handlers.Quiet) (occasion : Occasion)
    (event : Event) (verdict : Verdict) (source : ρ) :
    (Decision.announce policy occasion event verdict source).unheard =
      ⟨.ok verdict, source, []⟩ := by
  rw [Decision.announce, Handlers.fire_of_quiet quiet]
  simp only [Decision.unheard, Handlers.unheard_notice, Except.map]

theorem noted_announce_unheard (quiet : policy.handlers.Quiet) (history : History)
    (occasion : Occasion) (event : Event) (verdict : Verdict) (source : ρ) :
    ((Decision.announce policy occasion event verdict source).noted history).unheard =
      (Decision.announce policy.withoutHandlers occasion event verdict source).noted history := by
  unfold Decision.noted
  split
  · rw [announce_unheard quiet]
    cases occasion <;> rfl
  · rfl

variable [RandomSource ρ]

theorem conclude_unheard (quiet : policy.handlers.Quiet) (power : Power)
    (history : History) (isFailure isAbortable : Bool) (facts : AttemptFacts) (source : ρ) :
    (policy.conclude power history isFailure isAbortable facts source).unheard =
      policy.withoutHandlers.conclude power history isFailure isAbortable facts source := by
  have sameLimits : policy.withoutHandlers.retriesExceeded history =
      policy.retriesExceeded history := rfl
  have sameDelay : Delay.compute power policy.withoutHandlers.toSettings history source =
      Delay.compute power policy.toSettings history source := rfl
  unfold conclude
  rw [sameLimits, sameDelay]
  cases isAbortable with
  | true => exact noted_announce_unheard quiet _ _ _ _ _
  | false =>
      cases isFailure with
      | false => rfl
      | true =>
          simp only [Bool.false_eq_true, if_false, Bool.not_true]
          cases policy.retriesExceeded history with
          | true => exact noted_announce_unheard quiet _ _ _ _ _
          | false =>
              rcases Delay.compute power policy.toSettings history source with ⟨answer, drawn⟩
              cases answer with
              | error error => rfl
              | ok delay => exact noted_announce_unheard quiet _ _ _ _ _

theorem decide_unheard (quiet : policy.handlers.Quiet) (power : Power) (history : History)
    (isFailure isAbortable : Bool) (result : Value) (failure : Option Failure) (source : ρ) :
    (policy.decide power history isFailure isAbortable result failure source).unheard =
      policy.withoutHandlers.decide power history isFailure isAbortable result failure
        source := by
  have concluded := conclude_unheard quiet power history isFailure isAbortable
    (history.facts result failure) source
  unfold decide
  cases isFailure with
  | false =>
      simp only [Bool.false_eq_true, if_false]
      rw [Decision.unheard_after, concluded]
      rfl
  | true =>
      simp only [if_true, Handlers.fire_of_quiet quiet]
      rw [Decision.unheard_after, concluded, Handlers.unheard_notice]
      rfl

theorem evaluate_unheard (quiet : policy.handlers.Quiet) (power : Power)
    (history : History) (outcome : Outcome) (source : ρ) :
    (policy.evaluate power history outcome source).unheard =
      policy.withoutHandlers.evaluate power history outcome source := by
  have sameConditions : policy.withoutHandlers.isAbortable outcome.result outcome.failure =
      policy.isAbortable outcome.result outcome.failure := rfl
  unfold evaluate
  rw [sameConditions]
  rcases policy.isAbortable outcome.result outcome.failure with ⟨answer, asked⟩
  cases answer with
  | error raised => simp only [Decision.unheard, Action.unheard_asked]
  | ok isAbortable =>
      simp only [Decision.unheard_after, Action.unheard_asked, decide_unheard quiet]

end Policy

/-! ## Runs -/

namespace RunSetup

variable {ρ κ : Type} {setup : RunSetup}

def under (setup : RunSetup) (policy : Policy) : RunSetup := { setup with policy := policy }

def withoutHandlers (setup : RunSetup) : RunSetup := setup.under setup.policy.withoutHandlers

/-- Without handlers the same attempts can be noted, and nothing is shown before them. -/
theorem beforeAttempt_of_quiet (quiet : setup.policy.handlers.Quiet)
    (progress : Progress ρ κ) :
    setup.withoutHandlers.beforeAttempt progress = ((setup.beforeAttempt progress).1, []) ∧
      Action.unheard (setup.beforeAttempt progress).2 = [] := by
  unfold beforeAttempt
  split
  · exact ⟨rfl, rfl⟩
  · split
    · rw [Handlers.fire_of_quiet quiet]
      exact ⟨rfl, Handlers.unheard_notice _ _ _⟩
    · exact ⟨rfl, rfl⟩

theorem unheard_classify (setup : RunSetup) (outcome : Except Failure Value) :
    Action.unheard (setup.classify outcome).2 = (setup.classify outcome).2 := by
  unfold classify
  split <;> rfl

def unheardTurn (turn : Turn ρ κ) : Turn ρ κ :=
  { turn with actions := Action.unheard turn.actions }

theorem evaluate_unheard (quiet : setup.policy.handlers.Quiet) [RandomSource ρ]
    (history : History) (outcome : Outcome) (source : ρ) :
    (setup.evaluate history outcome source).unheard =
      setup.withoutHandlers.evaluate history outcome source := by
  unfold evaluate withoutHandlers under
  dsimp only
  split
  · exact Policy.evaluate_unheard quiet _ _ _ _
  · rfl

theorem decided_unheard (before : Progress ρ κ) (clock : κ) (history : History)
    {asked : List Action} (questions : Action.unheard asked = asked) (decision : Decision ρ) :
    decided before clock history asked decision.unheard =
      ((decided before clock history asked decision).1,
        (decided before clock history asked decision).2.1,
        Action.unheard (decided before clock history asked decision).2.2) := by
  rcases decision with ⟨answer, source, shown⟩
  cases answer with
  | error raised => simp only [decided, Decision.unheard, Action.unheard_append, questions]
  | ok verdict =>
      simp only [decided, Decision.unheard, Action.unheard_append, questions]
      rfl

theorem pause_actions_unheard [Clock κ] (delay : Duration) (progress : Progress ρ κ) :
    Action.unheard (pause delay progress).actions = (pause delay progress).actions := by
  unfold pause
  split <;> rfl

theorem wait_actions_unheard (verdict : Verdict) (outcome : Except Failure Value)
    [Clock κ] (progress : Progress ρ κ) :
    Action.unheard (wait verdict outcome progress).actions =
      (wait verdict outcome progress).actions := by
  cases verdict with
  | retry delay => exact pause_actions_unheard delay progress
  | succeed => rfl
  | abort => rfl
  | retriesExceeded => rfl

variable [RandomSource ρ] [Clock κ]

/-- The judgement of an attempt without handlers is the same, up to what handlers are told. -/
theorem judge_unheard (quiet : setup.policy.handlers.Quiet) (started : Binary64)
    (before : Progress ρ κ) (outcome : Except Failure Value) :
    setup.withoutHandlers.judge started before outcome =
      ((setup.judge started before outcome).1, (setup.judge started before outcome).2.1,
        Action.unheard (setup.judge started before outcome).2.2) := by
  have questions := setup.unheard_classify outcome
  rcases classification : setup.classify outcome with ⟨answer, asked⟩
  rw [classification] at questions
  have sameClassification : setup.withoutHandlers.classify outcome = (answer, asked) :=
    classification
  cases answer with
  | error raised =>
      rw [judge_unclassified classification, judge_unclassified sameClassification, questions]
  | ok isFailure =>
      cases measured : elapsedBetween started (Clock.read before.clock).1 with
      | error error =>
          rw [judge_unmeasured classification measured,
            judge_unmeasured sameClassification measured, questions]
      | ok elapsed =>
          rw [judge_decided classification measured, judge_decided sameClassification measured,
            ← decided_unheard _ _ _ questions, evaluate_unheard quiet]

/-- A turn that was announced goes on alike, as nothing gets out of the handlers. -/
theorem turn_unheard_of_announced (quiet : setup.policy.handlers.Quiet) (started : Binary64)
    {before : Progress ρ κ} {announced : List Action}
    (announcement : setup.beforeAttempt before = (.ok (), announced))
    (silent : Action.unheard announced = [])
    (unwatched : setup.withoutHandlers.beforeAttempt before = (.ok (), [])) :
    setup.withoutHandlers.turn started before = unheardTurn (setup.turn started before) := by
  cases again : asksAgain (setup.outcomeAfter before.attempts) with
  | true =>
      have waited := pause_actions_unheard before.delay (setup.attempted before)
      have shown : Action.unheard (announced ++
          setup.attemptAction before :: (pause before.delay (setup.attempted before)).actions) =
          setup.attemptAction before :: (pause before.delay (setup.attempted before)).actions := by
        rw [Action.unheard_append, silent, List.nil_append]
        exact congrArg (setup.attemptAction before :: ·) waited
      rw [turn_askedAgain announcement again, turn_askedAgain unwatched again, unheardTurn, shown]
      rfl
  | false =>
      have judged := setup.judge_unheard quiet started (setup.attempted before)
        (setup.outcomeAfter before.attempts)
      rw [turn_announced announcement again, turn_announced unwatched again]
      change setup.withoutHandlers.judgedTurn before []
        (setup.withoutHandlers.judge started (setup.attempted before)
          (setup.outcomeAfter before.attempts)) = _
      rw [judged]
      rcases setup.judge started (setup.attempted before) (setup.outcomeAfter before.attempts)
        with ⟨verdict, reached, shown⟩
      cases verdict with
      | error cause =>
          simp only [judgedTurn, unheardTurn, Action.unheard_append, silent]
          rfl
      | ok verdict =>
          simp only [judgedTurn, unheardTurn, Action.unheard_append, silent, wait_actions_unheard]
          rfl

theorem turn_unheard (quiet : setup.policy.handlers.Quiet) (started : Binary64)
    (before : Progress ρ κ) :
    setup.withoutHandlers.turn started before = unheardTurn (setup.turn started before) := by
  obtain ⟨unwatched, silent⟩ := setup.beforeAttempt_of_quiet quiet before
  rcases announcement : setup.beforeAttempt before with ⟨answer, announced⟩
  rw [announcement] at unwatched silent
  cases answer with
  | error raised =>
      rw [turn_unannounced announcement, turn_unannounced unwatched, unheardTurn, silent]
  | ok told => exact turn_unheard_of_announced quiet started announcement silent unwatched

/-- Step by step, a run under handlers and one without them make the same turns. -/
theorem runFrom_unheard (quiet : setup.policy.handlers.Quiet) (started : Binary64)
    (sleeps : Nat) :
    ∀ first : Progress ρ κ, (setup.runFrom started sleeps first).unheard =
      setup.withoutHandlers.runFrom started sleeps first := by
  induction sleeps with
  | zero =>
      intro first
      have turned := setup.turn_unheard quiet started first
      have sameEnd : (setup.withoutHandlers.turn started first).ended =
          (setup.turn started first).ended := by
        rw [turned]
        rfl
      cases ended : (setup.turn started first).ended with
      | none =>
          rw [ended] at sameEnd
          rw [runFrom_refused ended, runFrom_refused sameEnd, turned]
          rfl
      | some result =>
          rw [ended] at sameEnd
          rw [runFrom_ended ended, runFrom_ended sameEnd, turned]
          rfl
  | succ sleeps ih =>
      intro first
      have turned := setup.turn_unheard quiet started first
      have sameEnd : (setup.withoutHandlers.turn started first).ended =
          (setup.turn started first).ended := by
        rw [turned]
        rfl
      cases ended : (setup.turn started first).ended with
      | none =>
          rw [ended] at sameEnd
          rw [runFrom_slept ended, runFrom_slept sameEnd, Execution.unheard_after, ih, turned]
          rfl
      | some result =>
          rw [ended] at sameEnd
          rw [runFrom_ended ended, runFrom_ended sameEnd, turned]
          rfl

theorem run_unheard (setup : RunSetup) (quiet : setup.policy.handlers.Quiet) (clock : κ)
    (sleeps : Nat) (source : ρ) :
    (setup.run clock sleeps source).unheard =
      setup.withoutHandlers.run clock sleeps source := by
  unfold run
  rcases Clock.read clock with ⟨started, clock⟩
  exact setup.runFrom_unheard quiet started sleeps { clock := clock, source := source }

/-- Under two policies that differ in their handlers at most, and if nothing gets out of those, a
run ends alike and stands alike then, and it shows the same attempts, questions, verdicts with their
histories, and sleeps. The clock and the source are as they were made by the run, so the same
numbers were drawn. -/
theorem run_same_for_other_handlers (setup : RunSetup) (other : Policy) (clock : κ)
    (sleeps : Nat) (source : ρ)
    (alike : other.toSettings =
      { setup.policy.toSettings with handlers := other.handlers })
    (quiet : setup.policy.handlers.Quiet) (otherQuiet : other.handlers.Quiet) :
    (setup.run clock sleeps source).unheard =
      ((setup.under other).run clock sleeps source).unheard := by
  have sameSettings : { other.toSettings with handlers := {} } =
      { setup.policy.toSettings with handlers := {} } :=
    congrArg (fun settings : Settings => { settings with handlers := {} }) alike
  have samePolicy : other.withoutHandlers = setup.policy.withoutHandlers :=
    (Policy.mk.injEq _ _ _ _).mpr sameSettings
  have sameSetup : (setup.under other).withoutHandlers = setup.withoutHandlers := by
    unfold withoutHandlers under
    rw [samePolicy]
  rw [setup.run_unheard quiet, (setup.under other).run_unheard otherQuiet, sameSetup]

def raisingHandlers (raised : Raised) : Handlers :=
  let handler : Handler := ⟨.own 0, "raising", fun _ => some raised⟩
  ⟨some handler, some handler, some handler, some handler, some handler⟩

def faultyPolicy : Policy :=
  standardPolicy.withHandlers (raisingHandlers (.valueError "unheard" : Failure))

/-- A failure, a retry and a success, with no handler and with one that raises on each occasion. -/
theorem run_same_for_faulty_handlers :
    ((failingOnce standardPolicy).run Binary64.zero 5 noNumbers).unheard =
      (((failingOnce standardPolicy).under faultyPolicy).run Binary64.zero 5
        noNumbers).unheard := by
  refine run_same_for_other_handlers (failingOnce standardPolicy) faultyPolicy Binary64.zero 5
    noNumbers ?_ ?_ ?_
  · rfl
  · intro occasion handler event raised handles
    cases occasion <;> cases handles
  · intro occasion handler event raised handles raises
    cases occasion <;> cases handles <;> cases raises <;> decide

/-- Failures that raise another one where they are shown. -/
def unshowablePolicy : Policy :=
  standardPolicy.withHandlers
    (raisingHandlers ⟨.valueError "unseen", some (.typeError "not to be shown")⟩)

/-- If the failure that its handlers raise cannot be shown, a run ends with what that raises instead
of going on to the second attempt, although the failure is an ordinary one. -/
theorem run_ends_with_unshowable_failure :
    unshowablePolicy.toSettings =
        { standardPolicy.toSettings with handlers := unshowablePolicy.handlers } ∧
      (Failure.valueError "unseen").isOrdinary = true ∧
      ((failingOnce standardPolicy).run Binary64.zero 5 noNumbers).ending = .settled ∧
      ((failingOnce standardPolicy).run Binary64.zero 5 noNumbers).attemptNumbers = [1, 2] ∧
      (((failingOnce standardPolicy).under unshowablePolicy).run Binary64.zero 5
        noNumbers).ending = .disturbed .evaluation ∧
      (((failingOnce standardPolicy).under unshowablePolicy).run Binary64.zero 5
        noNumbers).attemptNumbers = [1] ∧
      failureOf (((failingOnce standardPolicy).under unshowablePolicy).run Binary64.zero 5
        noNumbers).outcome = some (.typeError "not to be shown") :=
  ⟨rfl, by decide, by decide +kernel, by decide +kernel, by decide +kernel, by decide +kernel,
    by decide +kernel⟩

end RunSetup
end Reattempt
