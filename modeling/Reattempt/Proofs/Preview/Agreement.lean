import Mathlib.Tactic
import Reattempt.Preview
import Reattempt.Proofs.Duration.Overflow
import Reattempt.Proofs.Execution.Trace

/-!
# Previews and runs

A preview is kept in step with a run of an operation that always fails. As long as the run measures
the time that the preview counts, both evaluate the same histories with the same source, attempt
by attempt (`runFrom_follows`). So the preview foretells the verdicts of the run
(`preview_foretells_run`).
-/

set_option autoImplicit false

namespace Reattempt

def Execution.verdicts {ρ κ : Type} (execution : Execution ρ κ) : List Verdict :=
  execution.judgements.map Judgement.verdict

def simulatedOutcome : Outcome := .failed (some simulatedFailure) .null

/-! ## Previews -/

namespace Preview

variable {ρ : Type} [RandomSource ρ] {policy : Policy} {power : Power} {attemptTime : Duration}
variable {failures : Nat} {history : History} {elapsed now : Duration} {source : ρ}

def decision (policy : Policy) (power : Power) (history : History) (elapsed : Duration)
    (source : ρ) : Decision ρ :=
  policy.evaluate power (history.record simulatedOutcome elapsed) simulatedOutcome source

theorem simulateFrom_unpassed {error : Duration.RangeError}
    (late : elapsed.add attemptTime = .error error) :
    (simulateFrom policy power (.ok attemptTime) (failures + 1) history elapsed source).verdicts =
      .error (Failure.ofRangeError error) := by
  simp [simulateFrom, Except.bind, late, stop]

/-- A preview whose next attempt ends in time goes by the decision on it. -/
theorem simulateFrom_succ (passed : elapsed.add attemptTime = .ok now) :
    (simulateFrom policy power (.ok attemptTime) (failures + 1) history elapsed source).verdicts =
      match (decision policy power history now source).verdict with
      | .error raised => .error raised
      | .ok verdict =>
          if verdict.isComplete then .ok [verdict]
          else
            match (history.record simulatedOutcome now).recordDelay verdict.delay,
                now.add verdict.delay with
            | .ok waiting, .ok later =>
                (simulateFrom policy power (.ok attemptTime) failures waiting later
                  (decision policy power history now source).source).verdicts.map (verdict :: ·)
            | .error error, _ => .error (Failure.ofRangeError error)
            | _, .error error => .error (Failure.ofRangeError error) := by
  simp only [simulateFrom, Except.bind, passed]
  change (match (decision policy power history now source).verdict with
    | .error raised => _
    | .ok verdict => _ : Preview ρ).verdicts = _
  cases (decision policy power history now source).verdict with
  | error raised => rfl
  | ok verdict =>
      dsimp only
      split
      · rfl
      · change (match (history.record simulatedOutcome now).recordDelay verdict.delay,
          now.add verdict.delay with
          | .ok waiting, .ok later => _
          | .error error, _ => _
          | _, .error error => _ : Preview ρ).verdicts = _
        cases (history.record simulatedOutcome now).recordDelay verdict.delay with
        | error error => rfl
        | ok waiting => cases now.add verdict.delay <;> rfl

/-- What a preview of at least one failure starts with: a last verdict, or a retry and the preview
of the others. -/
theorem simulateFrom_succ_eq_ok {verdicts : List Verdict}
    (previewed : (simulateFrom policy power (.ok attemptTime) (failures + 1) history elapsed
      source).verdicts = .ok verdicts) :
    ∃ now verdict, elapsed.add attemptTime = .ok now ∧
      (decision policy power history now source).verdict = .ok verdict ∧
      ((verdict.shouldRetry = false ∧ verdicts = [verdict]) ∨
        ∃ delay waited later rest, verdict = .retry delay ∧
          (history.record simulatedOutcome now).recordDelay delay = .ok waited ∧
          now.add delay = .ok later ∧
          (simulateFrom policy power (.ok attemptTime) failures waited later
            (decision policy power history now source).source).verdicts = .ok rest ∧
          verdicts = verdict :: rest) := by
  cases passed : elapsed.add attemptTime with
  | error error =>
      rw [simulateFrom_unpassed passed] at previewed
      cases previewed
  | ok now =>
      rw [simulateFrom_succ passed] at previewed
      cases reached : (decision policy power history now source).verdict with
      | error raised =>
          rw [reached] at previewed
          cases previewed
      | ok verdict =>
          refine ⟨now, verdict, rfl, reached, ?_⟩
          rw [reached] at previewed
          cases verdict with
          | succeed => exact Or.inl ⟨rfl, (Except.ok.inj previewed).symm⟩
          | abort => exact Or.inl ⟨rfl, (Except.ok.inj previewed).symm⟩
          | retriesExceeded => exact Or.inl ⟨rfl, (Except.ok.inj previewed).symm⟩
          | retry delay =>
              right
              simp only [Verdict.isComplete, Verdict.shouldRetry, Bool.not_true,
                Bool.false_eq_true, if_false, Verdict.delay] at previewed
              cases summed : (history.record simulatedOutcome now).recordDelay delay with
              | error error =>
                  rw [summed] at previewed
                  cases previewed
              | ok waited =>
                  cases slept : now.add delay with
                  | error error =>
                      rw [summed, slept] at previewed
                      cases previewed
                  | ok later =>
                      rw [summed, slept] at previewed
                      obtain ⟨rest, foretold, same⟩ := (map_eq_ok_iff _ _ _).mp previewed
                      exact ⟨delay, waited, later, rest, rfl, summed, slept, foretold,
                        same.symm⟩

end Preview

/-! ## Following a preview -/

namespace RunSetup

variable {ρ κ : Type} {setup : RunSetup}

/-- The time at which each of these judgements was made is the time that a preview counts: from a
given time on, as many attempt times as attempts were made, and the delays between them. -/
def KeepsTime (attemptTime before : Duration) (failures : Nat) (judgements : List Judgement) :
    Prop :=
  ∀ number, (made : number < judgements.length) → number < failures →
    judgements[number].history.elapsed.microseconds =
      before.microseconds + (number + 1) * attemptTime.microseconds +
        delaySum (judgements.take number)

instance (attemptTime before : Duration) (failures : Nat) (judgements : List Judgement) :
    Decidable (KeepsTime attemptTime before failures judgements) :=
  inferInstanceAs (Decidable (∀ number, (made : number < judgements.length) →
    number < failures → judgements[number].history.elapsed.microseconds =
      before.microseconds + (number + 1) * attemptTime.microseconds +
        delaySum (judgements.take number)))

theorem KeepsTime.first {attemptTime before : Duration} {failures : Nat} {judgement : Judgement}
    {judgements : List Judgement}
    (timed : KeepsTime attemptTime before (failures + 1) (judgement :: judgements)) :
    judgement.history.elapsed.microseconds =
      before.microseconds + attemptTime.microseconds := by
  have atFirst := timed 0 (by simp) (Nat.succ_pos failures)
  simpa [delaySum] using atFirst

theorem KeepsTime.rest {attemptTime before later : Duration} {failures : Nat}
    {judgement : Judgement} {judgements : List Judgement}
    (timed : KeepsTime attemptTime before (failures + 1) (judgement :: judgements))
    (slept : later.microseconds = before.microseconds + attemptTime.microseconds +
      judgement.verdict.delay.microseconds) :
    KeepsTime attemptTime later failures judgements := by
  intro number made within
  have atNext := timed (number + 1) (Nat.succ_lt_succ made) (Nat.succ_lt_succ within)
  simp only [List.getElem_cons_succ, List.take_succ_cons, delaySum, List.map_cons,
    List.sum_cons] at atNext
  rw [atNext, slept, delaySum]
  push_cast
  ring

/-- Why a run ends before its next attempt although it was to make one: a sleep is refused, or what
the handler of retries raises escapes. -/
inductive CutsShort (setup : RunSetup) (sleeps : Nat) (run : Execution ρ κ) : Prop
  | refused (ending : run.ending = .refused) (outcome : run.outcome = .error setup.sleepRefusal)
      (exhausted : run.verdicts.length = sleeps + 1)
  | stopped (handler : Handler) (event : Event) (raised : Raised) (failure : Failure)
      (handles : setup.policy.handlers.retry = some handler)
      (raises : handler.raises event = some raised) (stops : raised.escaped = some failure)
      (ending : run.ending = .disturbed .announcement) (outcome : run.outcome = .error failure)

/-- How the part of a run after some attempts follows the preview of a number of failures: it ends
with the preview, or it goes on after it, or it is cut short. -/
inductive Follows (setup : RunSetup) (failures sleeps made : Nat) (verdicts : List Verdict)
    (run : Execution ρ κ) : Prop
  | settles (earlier : List Verdict) (last : Verdict) (previewed : verdicts = earlier ++ [last])
      (final : last.shouldRetry = false) (within : verdicts.length ≤ failures)
      (same : run.verdicts = verdicts) (ending : run.ending = .settled)
      (outcome : run.outcome = .error simulatedFailure)
      (attempted : run.attemptNumbers = List.range' (made + 1) verdicts.length)
  | goesOn (retries : ∀ verdict ∈ verdicts, verdict.shouldRetry = true)
      (enough : verdicts.length = failures) (same : verdicts <+: run.verdicts)
      (attempted : List.range' (made + 1) (failures + 1) <+: run.attemptNumbers)
  | cutShort (same : run.verdicts <+: verdicts)
      (retries : ∀ verdict ∈ run.verdicts, verdict.shouldRetry = true)
      (attempted : run.attemptNumbers = List.range' (made + 1) run.verdicts.length)
      (cause : setup.CutsShort sleeps run)

theorem Follows.later {failures sleeps made : Nat} {verdicts : List Verdict}
    {run : Execution ρ κ} {actions : List Action} {delay : Duration} {history : History}
    (follows : setup.Follows failures sleeps (made + 1) verdicts run)
    (judgements : actions.filterMap Action.judgement? = [⟨.retry delay, history⟩])
    (attempted : actions.filterMap Action.attemptNumber? = [made + 1]) :
    setup.Follows (failures + 1) (sleeps + 1) made (.retry delay :: verdicts)
      (run.after actions) := by
  have laterVerdicts : (run.after actions).verdicts = .retry delay :: run.verdicts := by
    simp only [Execution.verdicts, Execution.judgements, Execution.after, List.filterMap_append,
      judgements, List.map_cons, List.singleton_append]
  have laterAttempts : (run.after actions).attemptNumbers = (made + 1) :: run.attemptNumbers := by
    simp only [Execution.attemptNumbers, Execution.after, List.filterMap_append, attempted,
      List.singleton_append]
  cases follows with
  | settles earlier last previewed final within same ending outcome numbers =>
      refine .settles (.retry delay :: earlier) last ?_ final (Nat.succ_le_succ within) ?_ ending
        outcome ?_
      · rw [previewed, List.cons_append]
      · rw [laterVerdicts, same]
      · rw [laterAttempts, numbers, List.length_cons, List.range'_succ]
  | goesOn retries enough same numbers =>
      refine .goesOn ?_ ?_ ?_ ?_
      · exact List.forall_mem_cons.mpr ⟨rfl, retries⟩
      · rw [List.length_cons, enough]
      · rw [laterVerdicts, List.cons_prefix_cons]
        exact ⟨rfl, same⟩
      · rw [laterAttempts, List.range'_succ, List.cons_prefix_cons]
        exact ⟨rfl, numbers⟩
  | cutShort same retries numbers cause =>
      refine .cutShort ?_ ?_ ?_ ?_
      · rw [laterVerdicts, List.cons_prefix_cons]
        exact ⟨rfl, same⟩
      · rw [laterVerdicts]
        exact List.forall_mem_cons.mpr ⟨rfl, retries⟩
      · rw [laterAttempts, numbers, laterVerdicts, List.length_cons, List.range'_succ]
      · cases cause with
        | refused ending outcome exhausted =>
            refine .refused ending outcome ?_
            rw [laterVerdicts, List.length_cons, exhausted]
        | stopped handler event raised failure handles raises stops ending outcome =>
            exact .stopped handler event raised failure handles raises stops ending outcome

/-! ## Turns of an operation that always fails -/

structure AlwaysFails (setup : RunSetup) : Prop where
  unclassified : setup.classifier = none
  fails : ∀ attempts, setup.outcomeAfter attempts = .error simulatedFailure

theorem AlwaysFails.classification (fails : setup.AlwaysFails) (attempts : Nat) :
    setup.classify (setup.outcomeAfter attempts) = (.ok true, []) := by
  rw [fails.fails, classify, fails.unclassified]
  rfl

theorem AlwaysFails.outcome (fails : setup.AlwaysFails) (attempts : Nat) :
    (⟨resultOf (setup.outcomeAfter attempts), failureOf (setup.outcomeAfter attempts), true⟩ :
      Outcome) = simulatedOutcome := by
  rw [fails.fails]
  rfl

theorem AlwaysFails.neverAsksAgain (fails : setup.AlwaysFails) : setup.NeverAsksAgain := by
  intro attempts
  rw [fails.fails]
  decide

variable [Clock κ]

/-- What is seen of a turn that is judged: its attempt and its verdict. -/
theorem filterMap_judgedTurn {β : Type} {view : Action → Option β}
    (unslept : ∀ seconds, view (.slept seconds) = none) (setup : RunSetup)
    (before : Progress ρ κ) {announced asked : List Action} {decision : Decision ρ}
    {verdict : Verdict} (reached : decision.verdict = .ok verdict)
    (unannounced : announced.filterMap view = []) (unasked : asked.filterMap view = [])
    (undecided : decision.actions.filterMap view = []) (made : Progress ρ κ) (clock : κ)
    (history : History) :
    (setup.judgedTurn before announced
        (decided made clock history asked decision)).actions.filterMap view =
      (view (setup.attemptAction before)).toList ++ (view (.judged verdict history)).toList := by
  have unwaited := filterMap_wait unslept verdict (setup.outcomeAfter before.attempts)
    { made with clock := clock, history := history, source := decision.source }
  simp only [judgedTurn, decided, reached, List.filterMap_append, List.filterMap_cons,
    unannounced, unasked, undecided, unwaited, List.filterMap_nil, List.append_nil,
    List.nil_append]
  cases view (setup.attemptAction before) <;> cases view (.judged verdict history) <;> rfl

/-- What a turn of such a run does: it is not begun, something goes wrong in it, or its attempt is
judged by the decision of a preview. -/
inductive FailingTurn (setup : RunSetup) [RandomSource ρ] (before : Progress ρ κ)
    (turn : Turn ρ κ) : Prop
  | unannounced (stage : Stage) (raised : Failure)
      (announced : (setup.beforeAttempt before).1 = .error (stage, raised))
      (shown : turn.actions = (setup.beforeAttempt before).2)
      (ended : turn.ended = some (.disturbed stage, .error raised))
  | disturbed (stage : Stage) (raised : Failure) (begun : stage ≠ .announcement)
      (ended : turn.ended = some (.disturbed stage, .error raised))
  | judged (elapsed : Duration) (verdict : Verdict) (reached : Progress ρ κ)
      (decided : (Preview.decision setup.policy setup.power before.history elapsed
        before.source).verdict = .ok verdict)
      (recorded : reached.history = before.history.record simulatedOutcome elapsed)
      (drawn : reached.source = (Preview.decision setup.policy setup.power before.history elapsed
        before.source).source)
      (counted : reached.attempts = before.attempts + 1)
      (judgements : turn.actions.filterMap Action.judgement? = [⟨verdict, reached.history⟩])
      (attempted : turn.actions.filterMap Action.attemptNumber? = [before.attempts + 1])
      (waits : turn.ended = (wait verdict (.error simulatedFailure) reached).ended ∧
        turn.progress = (wait verdict (.error simulatedFailure) reached).progress)

variable [RandomSource ρ]

/-- An attempt that the policy has a verdict on is judged as in a preview, if nothing but handlers
was called before it. -/
theorem failingTurn_of_decided (fails : setup.AlwaysFails) {before : Progress ρ κ}
    {announced : List Action} {clock : κ} {elapsed : Duration} {verdict : Verdict}
    (silent : ∀ {β : Type} (view : Action → Option β),
      (∀ occasion handler event, view (.fired occasion handler event) = none) →
        announced.filterMap view = [])
    (reached : (setup.evaluate (before.history.record simulatedOutcome elapsed) simulatedOutcome
      before.source).verdict = .ok verdict) :
    setup.FailingTurn before (setup.judgedTurn before announced
      (decided (setup.attempted before) clock (before.history.record simulatedOutcome elapsed) []
        (setup.evaluate (before.history.record simulatedOutcome elapsed) simulatedOutcome
          before.source))) := by
  have sameDecision : setup.evaluate (before.history.record simulatedOutcome elapsed)
      simulatedOutcome before.source =
      Preview.decision setup.policy setup.power before.history elapsed before.source :=
    evaluate_eq_ok reached
  have quiet {β : Type} (view : Action → Option β) (unasked : ∀ asked, view (.asked asked) = none)
      (unfired : ∀ occasion handler event, view (.fired occasion handler event) = none) :
      (Preview.decision setup.policy setup.power before.history elapsed
        before.source).actions.filterMap view = [] := by
    rw [← sameDecision]
    exact filterMap_evaluate unasked unfired _ _ _ _
  rw [sameDecision] at reached ⊢
  refine .judged elapsed verdict
    { setup.attempted before with
      clock := clock
      history := before.history.record simulatedOutcome elapsed
      source := _ } reached rfl rfl rfl ?_ ?_ ?_
  · rw [filterMap_judgedTurn (fun _ => rfl) setup before reached
      (silent Action.judgement? fun _ _ _ => rfl) rfl
      (quiet Action.judgement? (fun _ => rfl) fun _ _ _ => rfl)]
    rfl
  · rw [filterMap_judgedTurn (fun _ => rfl) setup before reached
      (silent Action.attemptNumber? fun _ _ _ => rfl) rfl
      (quiet Action.attemptNumber? (fun _ => rfl) fun _ _ _ => rfl)]
    rfl
  · have failed : setup.outcomeAfter before.attempts = .error simulatedFailure :=
      fails.fails before.attempts
    simp only [judgedTurn, decided, reached]
    rw [failed]
    exact ⟨rfl, rfl⟩

theorem turn_of_failing (fails : setup.AlwaysFails) (started : Binary64) (before : Progress ρ κ) :
    setup.FailingTurn before (setup.turn started before) := by
  rcases announcement : setup.beforeAttempt before with ⟨answer, announced⟩
  cases answer with
  | error raised =>
      rw [turn_unannounced announcement]
      exact .unannounced raised.1 raised.2 (by rw [announcement]) (by rw [announcement]) rfl
  | ok told =>
      rw [turn_announced announcement (fails.neverAsksAgain before.attempts)]
      have classification := fails.classification before.attempts
      cases measured : elapsedBetween started (Clock.read (setup.attempted before).clock).1 with
      | error error =>
          rw [judge_unmeasured classification measured]
          exact .disturbed .measurement _ (by decide) rfl
      | ok elapsed =>
          rw [judge_decided classification measured, fails.outcome]
          cases reached : (setup.evaluate ((setup.attempted before).history.record
            simulatedOutcome elapsed) simulatedOutcome (setup.attempted before).source).verdict with
          | error raised =>
              refine .disturbed .evaluation raised (by decide) ?_
              simp only [judgedTurn, decided, reached]
          | ok verdict =>
              refine failingTurn_of_decided fails (fun view unfired => ?_) reached
              have unseen := filterMap_beforeAttempt unfired setup before
              rwa [announcement] at unseen

/-! ## Runs of an operation that always fails -/

variable {started : Binary64}

/-- A run that is not announced to go on is cut short, whatever was previewed. -/
theorem follows_of_unannounced {failures sleeps : Nat} {first : Progress ρ κ}
    {verdicts : List Verdict} {stage : Stage} {raised : Failure}
    (announced : (setup.beforeAttempt first).1 = .error (stage, raised))
    (shown : (setup.turn started first).actions = (setup.beforeAttempt first).2)
    (ended : (setup.turn started first).ended = some (.disturbed stage, .error raised))
    (undisturbed : ∀ stage, (setup.runFrom started sleeps first).ending = .disturbed stage →
      stage = .announcement) :
    setup.Follows failures sleeps first.attempts verdicts
      (setup.runFrom started sleeps first) := by
  cases undisturbed stage (runFrom_unannounced announced sleeps)
  obtain ⟨-, -, handler, event, handles, given, raises, stops⟩ :=
    beforeAttempt_eq_error announced fun same => nomatch same
  have noVerdicts : (setup.runFrom started sleeps first).verdicts = [] := by
    rw [runFrom_ended ended, Execution.verdicts, Execution.judgements, shown,
      filterMap_beforeAttempt (fun _ _ _ => rfl), List.map_nil]
  refine .cutShort ?_ ?_ ?_ (.stopped handler event given raised handles raises stops ?_ ?_)
  · rw [noVerdicts]
    exact List.nil_prefix
  · rw [noVerdicts]
    exact fun _ member => absurd member List.not_mem_nil
  · rw [noVerdicts, runFrom_ended ended, Execution.attemptNumbers, shown,
      filterMap_beforeAttempt (fun _ _ _ => rfl)]
    rfl
  · rw [runFrom_ended ended]
  · rw [runFrom_ended ended]

theorem not_disturbed {sleeps : Nat} {first : Progress ρ κ} {stage : Stage}
    {outcome : Except Failure Value} (begun : stage ≠ .announcement)
    (ended : (setup.turn started first).ended = some (.disturbed stage, outcome)) :
    ¬ ∀ stage, (setup.runFrom started sleeps first).ending = .disturbed stage →
      stage = .announcement := by
  intro undisturbed
  rw [runFrom_ended ended] at undisturbed
  exact begun (undisturbed stage rfl)

theorem follows_of_final {failures sleeps : Nat} {first : Progress ρ κ} {verdict : Verdict}
    {history : History} (final : verdict.shouldRetry = false)
    (judgements : (setup.turn started first).actions.filterMap Action.judgement? =
      [⟨verdict, history⟩])
    (attempted : (setup.turn started first).actions.filterMap Action.attemptNumber? =
      [first.attempts + 1])
    (ended : (setup.turn started first).ended = some (.settled, .error simulatedFailure)) :
    setup.Follows (failures + 1) sleeps first.attempts [verdict]
      (setup.runFrom started sleeps first) := by
  rw [runFrom_ended ended]
  refine .settles [] verdict rfl final (Nat.succ_le_succ (Nat.zero_le failures)) ?_ rfl rfl ?_
  · rw [Execution.verdicts, Execution.judgements, judgements]
    rfl
  · rw [Execution.attemptNumbers, attempted]
    rfl

theorem follows_of_retry {failures sleeps : Nat} {first : Progress ρ κ}
    {verdicts : List Verdict} {delay : Duration} {history : History}
    (judgements : (setup.turn started first).actions.filterMap Action.judgement? =
      [⟨.retry delay, history⟩])
    (attempted : (setup.turn started first).actions.filterMap Action.attemptNumber? =
      [first.attempts + 1])
    (ended : (setup.turn started first).ended = none)
    (later : ∀ remaining, sleeps = remaining + 1 →
      setup.Follows failures remaining (first.attempts + 1) verdicts
        (setup.runFrom started remaining (setup.turn started first).progress)) :
    setup.Follows (failures + 1) sleeps first.attempts (.retry delay :: verdicts)
      (setup.runFrom started sleeps first) := by
  cases sleeps with
  | zero =>
      rw [runFrom_refused ended]
      have oneVerdict : (⟨.error setup.sleepRefusal, .refused, (setup.turn started first).actions,
          (setup.turn started first).progress⟩ : Execution ρ κ).verdicts = [.retry delay] := by
        rw [Execution.verdicts, Execution.judgements, judgements]
        rfl
      refine .cutShort ?_ ?_ ?_ (.refused rfl rfl ?_)
      · rw [oneVerdict, List.cons_prefix_cons]
        exact ⟨rfl, List.nil_prefix⟩
      · rw [oneVerdict]
        exact List.forall_mem_singleton.mpr rfl
      · rw [oneVerdict, Execution.attemptNumbers, attempted]
        rfl
      · rw [oneVerdict]
        rfl
  | succ remaining =>
      rw [runFrom_slept ended]
      exact (later remaining rfl).later judgements attempted

/-- Attempt by attempt, a run follows the preview that starts from the same history with the same
source: if the time agrees, then both evaluate the same history next. -/
theorem runFrom_follows (fails : setup.AlwaysFails) (attemptTime : Duration) (failures : Nat) :
    ∀ (sleeps : Nat) (first : Progress ρ κ) (before : Duration) (verdicts : List Verdict),
      (Preview.simulateFrom setup.policy setup.power (.ok attemptTime) failures first.history
        before first.source).verdicts = .ok verdicts →
      KeepsTime attemptTime before failures
        (setup.runFrom started sleeps first).judgements →
      (∀ stage, (setup.runFrom started sleeps first).ending = .disturbed stage →
        stage = .announcement) →
      setup.Follows failures sleeps first.attempts verdicts
        (setup.runFrom started sleeps first) := by
  induction failures with
  | zero =>
      intro sleeps first before verdicts previewed timed undisturbed
      cases Except.ok.inj previewed
      cases setup.turn_of_failing fails started first with
      | unannounced stage raised announced shown ended =>
          exact follows_of_unannounced announced shown ended undisturbed
      | disturbed stage raised begun ended => exact absurd undisturbed (not_disturbed begun ended)
      | judged elapsed verdict reached decided recorded drawn counted judgements attempted
          waits =>
          refine .goesOn (fun _ member => absurd member List.not_mem_nil) rfl List.nil_prefix ?_
          have begun := (setup.runFrom_shows_turn started sleeps first).filterMap
            Action.attemptNumber?
          rw [attempted] at begun
          exact begun
  | succ failures ih =>
      intro sleeps first before verdicts previewed timed undisturbed
      obtain ⟨now, verdict, passed, foretold, rest⟩ := Preview.simulateFrom_succ_eq_ok previewed
      cases setup.turn_of_failing fails started first with
      | unannounced stage raised announced shown ended =>
          exact follows_of_unannounced announced shown ended undisturbed
      | disturbed stage raised begun ended => exact absurd undisturbed (not_disturbed begun ended)
      | judged elapsed judged reached decided recorded drawn counted judgements attempted waits =>
          have begins := (setup.runFrom_shows_turn started sleeps first).filterMap
            Action.judgement?
          rw [judgements] at begins
          obtain ⟨laterJudgements, shows⟩ := begins
          rw [Execution.judgements, ← shows, List.singleton_append] at timed
          -- at the same time both record the same history, and so they decide alike
          have sameTime : elapsed = now := by
            have atFirst := timed.first
            rw [recorded, ← Duration.add_eq_ok passed] at atFirst
            exact (Duration.mk.injEq _ _ _ _).mpr atFirst
          subst sameTime
          cases Except.ok.inj (decided.symm.trans foretold)
          rcases rest with ⟨final, rfl⟩ | ⟨delay, waited, later, others, rfl, summed, slept,
            foretoldLater, rfl⟩
          · refine follows_of_final final judgements attempted ?_
            rw [waits.1]
            cases verdict with
            | retry delay => cases final
            | succeed => rfl
            | abort => rfl
            | retriesExceeded => rfl
          · rw [← recorded] at summed
            simp only [wait, pause, summed] at waits
            refine follows_of_retry judgements attempted waits.1 fun remaining same => ?_
            subst same
            have nextAttempts :
                (setup.turn started first).progress.attempts = first.attempts + 1 := by
              rw [waits.2]
              exact counted
            rw [runFrom_slept waits.1] at shows undisturbed
            simp only [Execution.after, List.filterMap_append, judgements] at shows
            cases List.append_cancel_left shows
            rw [← nextAttempts]
            refine ih remaining _ later others ?_ (timed.rest ?_) undisturbed
            · rw [waits.2]
              dsimp only
              rw [drawn]
              exact foretoldLater
            · rw [Duration.add_eq_ok slept, Duration.add_eq_ok passed]
              rfl

/-- A run does what its preview says: it reaches the verdicts of the preview first. If the last one
of them is no retry, then it ends the run, and otherwise another attempt is made. -/
structure Foretold (failures : Nat) (earlier : List Verdict) (last : Verdict)
    (run : Execution ρ κ) : Prop where
  same : run.verdicts.take failures = earlier ++ [last]
  ends : last.shouldRetry = false → run.verdicts = earlier ++ [last] ∧ run.ending = .settled ∧
    run.outcome = .error simulatedFailure ∧
    run.attemptNumbers = List.range' 1 (earlier.length + 1)
  goes_on : last.shouldRetry = true → List.range' 1 (failures + 1) <+: run.attemptNumbers

/-- A run made some of the attempts that were previewed, was to make another one after the last of
them, and did not. -/
structure Interrupted (setup : RunSetup) (sleeps : Nat) (verdicts : List Verdict)
    (run : Execution ρ κ) : Prop where
  same : run.verdicts <+: verdicts
  retries : ∀ verdict ∈ run.verdicts, verdict.shouldRetry = true
  attempted : run.attemptNumbers = List.range' 1 run.verdicts.length
  cause : setup.CutsShort sleeps run

/-- A preview of failures foretells the run of an operation that always fails like that, if the run
keeps the time that the preview counts and neither of them is disturbed: the verdicts are the same,
and the run ends with the preview or goes on after it. Only a sleep that is refused or a handler
whose failure escapes makes the run end before that. -/
theorem preview_foretells_run (setup : RunSetup) (attemptTime : Duration) (failures : Nat)
    (clock : κ) (sleeps : Nat) (source : ρ) (verdicts : List Verdict) (any : 0 < failures)
    (fails : setup.AlwaysFails)
    (previewed : (Preview.simulate setup.policy setup.power failures (.ok attemptTime)
      source).verdicts = .ok verdicts)
    (timed : KeepsTime attemptTime .zero failures (setup.run clock sleeps source).judgements)
    (undisturbed : ∀ stage, (setup.run clock sleeps source).ending = .disturbed stage →
      stage = .announcement) :
    (∃ earlier last, verdicts = earlier ++ [last] ∧
      Foretold failures earlier last (setup.run clock sleeps source)) ∨
    setup.Interrupted sleeps verdicts (setup.run clock sleeps source) := by
  have follows : setup.Follows failures sleeps 0 verdicts (setup.run clock sleeps source) :=
    runFrom_follows fails attemptTime failures sleeps
      { clock := (Clock.read clock).2, source := source } .zero verdicts previewed timed undisturbed
  cases follows with
  | settles earlier last previewed final within same ending outcome attempted =>
      subst previewed
      refine Or.inl ⟨earlier, last, rfl, ?_, fun _ => ⟨same, ending, outcome, ?_⟩,
        fun retried => ?_⟩
      · rw [same, List.take_of_length_le within]
      · rw [attempted, List.length_append, List.length_singleton]
      · rw [final] at retried
        cases retried
  | goesOn retries enough same attempted =>
      rcases List.eq_nil_or_concat verdicts with rfl | ⟨earlier, last, rfl⟩
      · exact absurd enough any.ne
      · rw [List.concat_eq_append] at retries enough same
        refine Or.inl ⟨earlier, last, List.concat_eq_append, ?_, fun final => ?_,
          fun _ => attempted⟩
        · rw [← enough]
          exact (List.prefix_iff_eq_take.mp same).symm
        · rw [retries last (List.mem_append_right _ (List.mem_singleton_self last))] at final
          cases final
  | cutShort same retries attempted cause => exact Or.inr ⟨same, retries, attempted, cause⟩

/-! ## Previews of three failures -/

def failingSlowly (policy : Policy) : RunSetup where
  policy := policy
  power base _ := base
  operation _ _ := ⟨.ofInt 1, .error simulatedFailure⟩
  sleepRefusal := ⟨.keyboardInterrupt, none⟩

theorem failingSlowly_fails (policy : Policy) : (failingSlowly policy).AlwaysFails :=
  ⟨rfl, fun _ => rfl⟩

def oneSecond : Duration := ⟨1000000, Duration.oneSecond_inRange⟩

def twoSeconds : Duration := ⟨2000000, Duration.twoSeconds_inRange⟩

def steadyPolicy : Policy := ⟨{ delay := twoSeconds }, by decide +kernel⟩

/-- Two retries and the verdict that they are exhausted, in a preview and in a run. -/
theorem preview_foretells_failing_run :
    let setup := failingSlowly steadyPolicy
    let verdicts := [.retry twoSeconds, .retry twoSeconds, .retriesExceeded]
    (Preview.simulate setup.policy setup.power 3 (.ok oneSecond) noNumbers).verdicts =
      .ok verdicts ∧
    KeepsTime oneSecond .zero 3 (setup.run Binary64.zero 5 noNumbers).judgements ∧
    ∃ earlier last, verdicts = earlier ++ [last] ∧
      Foretold 3 earlier last (setup.run Binary64.zero 5 noNumbers) := by
  intro setup verdicts
  have previewed : (Preview.simulate setup.policy setup.power 3 (.ok oneSecond)
      noNumbers).verdicts = .ok verdicts := by
    decide +kernel
  have timed : KeepsTime oneSecond .zero 3 (setup.run Binary64.zero 5 noNumbers).judgements := by
    decide +kernel
  have settles : (setup.run Binary64.zero 5 noNumbers).ending = .settled := by
    decide +kernel
  have undisturbed (stage : Stage)
      (disturbed : (setup.run Binary64.zero 5 noNumbers).ending = .disturbed stage) :
      stage = .announcement := by
    rw [settles] at disturbed
    cases disturbed
  refine ⟨previewed, timed, ?_⟩
  rcases preview_foretells_run setup oneSecond 3 Binary64.zero 5 noNumbers verdicts (by decide)
    (failingSlowly_fails steadyPolicy) previewed timed undisturbed with foretold | interrupted
  · exact foretold
  · cases interrupted.cause with
    | refused ending outcome exhausted => exact absurd (ending.symm.trans settles) (by decide)
    | stopped handler event raised failure handles raises stops ending outcome =>
        exact absurd (ending.symm.trans settles) (by decide)

/-- If the handler of retries stops the program, then the run ends after its first attempt, although
it keeps the time of a preview that goes on. -/
theorem preview_misses_stopped_run :
    let setup := failingSlowly stoppedPolicy
    setup.AlwaysFails ∧
    (Preview.simulate setup.policy setup.power 3 (.ok oneSecond) noNumbers).verdicts =
      .ok [.retry .zero, .retry .zero, .retriesExceeded] ∧
    KeepsTime oneSecond .zero 3 (setup.run Binary64.zero 5 noNumbers).judgements ∧
    (setup.run Binary64.zero 5 noNumbers).ending = .disturbed .announcement ∧
    (setup.run Binary64.zero 5 noNumbers).verdicts = [.retry .zero] ∧
    (setup.run Binary64.zero 5 noNumbers).attemptNumbers = [1] :=
  ⟨failingSlowly_fails stoppedPolicy, by decide +kernel, by decide +kernel, by decide +kernel,
    by decide +kernel, by decide +kernel⟩

end RunSetup
end Reattempt
