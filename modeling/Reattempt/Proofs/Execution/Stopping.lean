import Mathlib.Tactic
import Reattempt.Proofs.Execution.Turns

/-!
# When a run stops

A run goes on as long as there is no reason to stop, and it stops at the first one
(`run_stops_at_first_reason`). Each history that is evaluated tells how many attempts were made,
what the last one came to and the sum of all delays before it; `HasJudged` is the invariant.
-/

set_option autoImplicit false

namespace Reattempt

structure Judgement where
  verdict : Verdict
  history : History

namespace Action

def judgement? : Action → Option Judgement
  | .judged verdict history => some ⟨verdict, history⟩
  | _ => none

def attemptNumber? : Action → Option Nat
  | .attempt number _ => some number
  | _ => none

end Action

namespace Execution

variable {ρ κ : Type}

def judgements (execution : Execution ρ κ) : List Judgement :=
  execution.actions.filterMap Action.judgement?

def attemptNumbers (execution : Execution ρ κ) : List Nat :=
  execution.actions.filterMap Action.attemptNumber?

end Execution

namespace RunSetup

variable {ρ κ : Type} {setup : RunSetup}

/-! ## Histories -/

def delaySum (judgements : List Judgement) : Int :=
  (judgements.map fun judgement => judgement.verdict.delay.microseconds).sum

/-- What a history tells when it is evaluated after these judgements. -/
structure Remembers (setup : RunSetup) (earlier : List Judgement) (history : History) : Prop where
  attemptNumber : history.attemptNumber = earlier.length + 1
  elapsed_not_negative : .zero ≤ history.elapsed
  lastResult : history.lastResult = resultOf (setup.outcomeAfter earlier.length)
  lastFailure : history.lastFailure = failureOf (setup.outcomeAfter earlier.length)
  totalDelay : history.totalDelay.microseconds = delaySum earlier

/-- Where a run stands before an attempt if these judgements were made so far. -/
structure HasJudged (earlier : List Judgement) (progress : Progress ρ κ) : Prop where
  attempts : progress.attempts = earlier.length
  attemptNumber : progress.history.attemptNumber = earlier.length
  totalDelay : progress.history.totalDelay.microseconds = delaySum earlier

theorem Judged.remembers {earlier : List Judgement} {before : Progress ρ κ} {isFailure : Bool}
    {verdict : Verdict} {history : History} (stands : HasJudged earlier before)
    (judged : setup.Judged before.history (setup.outcomeAfter before.attempts) isFailure verdict
      history) :
    setup.Remembers earlier history := by
  have recorded := judged.recorded
  rw [stands.attempts] at recorded
  refine ⟨?_, judged.elapsed_not_negative, ?_, ?_, ?_⟩
  · rw [recorded, ← stands.attemptNumber]
    rfl
  · rw [recorded]
    rfl
  · rw [recorded]
    rfl
  · rw [recorded, ← stands.totalDelay]
    rfl

theorem HasJudged.next {earlier : List Judgement} {before after : Progress ρ κ}
    {history : History} {delay : Duration} (stands : HasJudged earlier before)
    (remembers : setup.Remembers earlier history)
    (summed : history.recordDelay delay = .ok after.history)
    (counted : after.attempts = before.attempts + 1) :
    HasJudged (earlier ++ [⟨.retry delay, history⟩]) after := by
  obtain ⟨total, waited, sum⟩ := recordDelay_eq_ok summed
  refine ⟨?_, ?_, ?_⟩
  · rw [counted, stands.attempts, List.length_append, List.length_singleton]
  · rw [waited, List.length_append, List.length_singleton]
    exact_mod_cast remembers.attemptNumber
  · rw [waited, delaySum, List.map_append, List.sum_append]
    change total.microseconds = _
    rw [sum, remembers.totalDelay]
    simp [delaySum, Verdict.delay]

def Round.judgement (round : Round) : Judgement := ⟨.retry round.delay, round.history⟩

/-- What holds of a round that came after some judgements: its number, what its history tells, and
that there was no reason to stop. -/
structure Round.GoesOn (setup : RunSetup) (earlier : List Judgement) (round : Round) : Prop where
  number : round.number = earlier.length + 1
  remembers : setup.Remembers earlier round.history
  no_reason : ¬ setup.StopsAfter (earlier.length + 1) round.history.elapsed
    (setup.outcomeAfter earlier.length)

theorem Judged.goesOn {earlier : List Judgement} {before : Progress ρ κ} {delay : Duration}
    {history : History} (stands : HasJudged earlier before)
    (judged : setup.Judged before.history (setup.outcomeAfter before.attempts) true (.retry delay)
      history) :
    ¬ setup.StopsAfter (earlier.length + 1) history.elapsed
      (setup.outcomeAfter earlier.length) := by
  have remembers := judged.remembers stands
  rw [← remembers.attemptNumber, ← stands.attempts, ← judged.stops_iff]
  simp [Verdict.shouldRetry]

/-- From one attempt to another: where the run stands then, and what holds of each round between
them. -/
theorem Rounds.stands {first last : Progress ρ κ} {rounds : List Round}
    (reached : setup.Rounds first rounds last) : ∀ earlier, HasJudged earlier first →
      HasJudged (earlier ++ rounds.map Round.judgement) last ∧
        ∀ passed round later, rounds = passed ++ round :: later →
          round.GoesOn setup (earlier ++ passed.map Round.judgement) := by
  induction reached with
  | none progress =>
      intro earlier stands
      refine ⟨by simpa using stands, ?_⟩
      intro passed round later split
      simp at split
  | @next before after last delay history rounds judged summed counted rest ih =>
      intro earlier stands
      have remembers := judged.remembers stands
      obtain ⟨lastStands, goOn⟩ := ih _ (stands.next remembers summed counted)
      refine ⟨by simpa [Round.judgement] using lastStands, ?_⟩
      intro passed round later split
      cases passed with
      | nil =>
          simp only [List.nil_append, List.cons.injEq] at split
          obtain ⟨rfl, _⟩ := split
          simp only [List.map_nil, List.append_nil]
          exact ⟨by rw [stands.attempts], remembers, judged.goesOn stands⟩
      | cons firstPassed passed =>
          simp only [List.cons_append, List.cons.injEq] at split
          obtain ⟨rfl, split⟩ := split
          simpa [Round.judgement] using goOn passed round later split

/-! ## Runs -/

theorem judgements_roundActions (setup : RunSetup) (rounds : List Round) :
    (rounds.flatMap setup.roundActions).filterMap Action.judgement? =
      rounds.map Round.judgement := by
  induction rounds with
  | nil => rfl
  | cons round rounds ih =>
      rw [List.flatMap_cons, List.filterMap_append, ih,
        filterMap_roundActions (fun _ => rfl) (fun _ _ _ => rfl)]
      rfl

theorem attemptNumbers_roundActions (setup : RunSetup) (rounds : List Round) :
    (rounds.flatMap setup.roundActions).filterMap Action.attemptNumber? =
      rounds.map Round.number := by
  induction rounds with
  | nil => rfl
  | cons round rounds ih =>
      rw [List.flatMap_cons, List.filterMap_append, ih,
        filterMap_roundActions (fun _ => rfl) (fun _ _ _ => rfl)]
      rfl

theorem Rounds.numbers {first last : Progress ρ κ} {rounds : List Round}
    (reached : setup.Rounds first rounds last) :
    rounds.map Round.number = List.range' (first.attempts + 1) rounds.length ∧
      last.attempts = first.attempts + rounds.length := by
  induction reached with
  | none progress => exact ⟨rfl, rfl⟩
  | next judged summed counted rest ih =>
      obtain ⟨numbers, attempts⟩ := ih
      rw [counted] at numbers attempts
      refine ⟨?_, ?_⟩
      · rw [List.map_cons, numbers, List.length_cons, List.range'_succ]
      · rw [attempts, List.length_cons]
        omega

def HasReason (setup : RunSetup) (earlier : List Judgement) (judgement : Judgement) : Prop :=
  setup.StopsAfter (earlier.length + 1) judgement.history.elapsed
    (setup.outcomeAfter earlier.length)

/-- How a run ends after these judgements: as its last attempt did if there was a reason to stop,
and otherwise only by a sleep that is refused or by a handler that stops it. -/
inductive EndsAfter (setup : RunSetup) (sleeps : Nat) (earlier : List Judgement)
    (last : Judgement) : Ending → Except Failure Value → Prop
  | settled (reason : setup.HasReason earlier last)
      (final : last.verdict.shouldRetry = false) :
      EndsAfter setup sleeps earlier last .settled (setup.outcomeAfter earlier.length)
  | refused (noReason : ¬ setup.HasReason earlier last)
      (retried : last.verdict.shouldRetry = true) (exhausted : earlier.length = sleeps) :
      EndsAfter setup sleeps earlier last .refused (.error setup.sleepRefusal)
  | interrupted (noReason : ¬ setup.HasReason earlier last)
      (retried : last.verdict.shouldRetry = true) (handler : Handler) (event : Event)
      (raised : Raised) (failure : Failure) (handles : setup.policy.handlers.retry = some handler)
      (raises : handler.raises event = some raised) (escapes : raised.escaped = some failure) :
      EndsAfter setup sleeps earlier last (.disturbed .announcement) (.error failure)

/-- What holds of a run with these judgements: it made one attempt for each of them, each history
tells what happened so far, and there was no reason to stop before the last one. -/
structure StopsInTime (setup : RunSetup) (sleeps : Nat) (execution : Execution ρ κ)
    (earlier : List Judgement) (last : Judgement) : Prop where
  judgements : execution.judgements = earlier ++ [last]
  attemptNumbers : execution.attemptNumbers = List.range' 1 (earlier.length + 1)
  remembers : ∀ passed judgement later, earlier ++ [last] = passed ++ judgement :: later →
    setup.Remembers passed judgement.history
  goes_on : ∀ passed judgement later, earlier = passed ++ judgement :: later →
    judgement.verdict.shouldRetry = true ∧ ¬ setup.HasReason passed judgement
  ends : setup.EndsAfter sleeps earlier last execution.ending execution.outcome

theorem each_concat {property : List Judgement → Judgement → Prop} {earlier : List Judgement}
    {last : Judgement}
    (each : ∀ passed judgement later, earlier = passed ++ judgement :: later →
      property passed judgement)
    (atEnd : property earlier last) :
    ∀ passed judgement later, earlier ++ [last] = passed ++ judgement :: later →
      property passed judgement := by
  intro passed judgement later split
  rcases List.eq_nil_or_concat later with rfl | ⟨between, final, rfl⟩
  · obtain ⟨rfl, same⟩ := List.append_inj' split rfl
    cases same
    exact atEnd
  · rw [List.concat_eq_append, ← List.cons_append, ← List.append_assoc] at split
    exact each passed judgement between (List.append_inj' split rfl).1

theorem GoesOn.each {rounds : List Round}
    (goOn : ∀ passed round later, rounds = passed ++ round :: later →
      round.GoesOn setup (passed.map Round.judgement)) :
    ∀ passed judgement later, rounds.map Round.judgement = passed ++ judgement :: later →
      setup.Remembers passed judgement.history ∧ judgement.verdict.shouldRetry = true ∧
        ¬ setup.HasReason passed judgement := by
  intro passed judgement later split
  obtain ⟨passedRounds, rest, same, rfl, restSame⟩ := List.map_eq_append_iff.mp split
  obtain ⟨round, laterRounds, rfl, rfl, _⟩ := List.map_eq_cons_iff.mp restSame
  have holds := goOn passedRounds round laterRounds same
  exact ⟨holds.remembers, rfl, holds.no_reason⟩

theorem hasJudged_nil (clock : κ) (source : ρ) :
    HasJudged [] ({ clock := clock, source := source } : Progress ρ κ) :=
  ⟨rfl, rfl, rfl⟩

/-- Before an attempt, only the note of its number and the handler of retries can raise. -/
theorem beforeAttempt_eq_error {before : Progress ρ κ} {stage : Stage} {failure : Failure}
    (announced : (setup.beforeAttempt before).1 = .error (stage, failure))
    (noted : stage ≠ .note) :
    stage = .announcement ∧ before.attempts ≠ 0 ∧
      ∃ handler event, setup.policy.handlers.retry = some handler ∧
        ∃ raised : Raised, handler.raises event = some raised ∧
          raised.escaped = some failure := by
  unfold beforeAttempt at announced
  split at announced
  · cases announced
  · rename_i notFirst
    split at announced
    · dsimp only at announced
      cases answer : (setup.policy.handlers.fire .retry (.attempted (before.history.facts
        before.history.lastResult before.history.lastFailure))).1 with
      | ok told =>
          rw [answer] at announced
          cases announced
      | error raised =>
          rw [answer] at announced
          cases announced
          obtain ⟨handler, handles, escapes⟩ := (Handlers.fire_eq_error_iff _ _ _ _).mp answer
          exact ⟨rfl, notFirst, handler, _, handles, escapes⟩
    · cases announced
      exact absurd rfl noted

/-- Some rounds and one more attempt that was judged, and possibly a sleep. -/
theorem Judged.stopsInTime {sleeps : Nat} {execution : Execution ρ κ} {rounds : List Round}
    {before : Progress ρ κ} {isFailure : Bool} {verdict : Verdict} {history : History}
    {rest : List Action} (stands : HasJudged (rounds.map Round.judgement) before)
    (goOn : ∀ passed round later, rounds = passed ++ round :: later →
      round.GoesOn setup (passed.map Round.judgement))
    (numbers : rounds.map Round.number = List.range' 1 rounds.length)
    (judged : setup.Judged before.history (setup.outcomeAfter before.attempts) isFailure verdict
      history)
    (actions : execution.actions = rounds.flatMap setup.roundActions ++
      setup.attemptAction before ::
        (setup.judgementActions (setup.outcomeAfter before.attempts) isFailure verdict history ++
          rest))
    (unjudged : rest.filterMap Action.judgement? = [])
    (unattempted : rest.filterMap Action.attemptNumber? = [])
    (ends : setup.EndsAfter sleeps (rounds.map Round.judgement) ⟨verdict, history⟩
      execution.ending execution.outcome) :
    setup.StopsInTime sleeps execution (rounds.map Round.judgement) ⟨verdict, history⟩ := by
  have each := GoesOn.each goOn
  refine ⟨?_, ?_, ?_, ?_, ends⟩
  · rw [Execution.judgements, actions, List.filterMap_append, judgements_roundActions,
      List.filterMap_cons, List.filterMap_append, unjudged,
      filterMap_judgementActions (fun _ => rfl) (fun _ _ _ => rfl)]
    rfl
  · rw [Execution.attemptNumbers, actions, List.filterMap_append, attemptNumbers_roundActions,
      numbers, List.filterMap_cons, List.filterMap_append, unattempted,
      filterMap_judgementActions (fun _ => rfl) (fun _ _ _ => rfl), List.length_map,
      List.range'_1_concat]
    simp only [Action.attemptNumber?, attemptAction, stands.attempts, List.length_map]
    rw [Nat.add_comm]
    rfl
  · exact each_concat (fun passed judgement later split => (each passed judgement later split).1)
      (judged.remembers stands)
  · exact fun passed judgement later split => (each passed judgement later split).2

/-- Some rounds, after which the handler of retries raises. -/
theorem stopsInTime_unannounced {sleeps : Nat} {execution : Execution ρ κ} {rounds : List Round}
    {before : Progress ρ κ} {stage : Stage} {raised : Failure}
    (stands : HasJudged (rounds.map Round.judgement) before)
    (goOn : ∀ passed round later, rounds = passed ++ round :: later →
      round.GoesOn setup (passed.map Round.judgement))
    (numbers : rounds.map Round.number = List.range' 1 rounds.length)
    (announced : (setup.beforeAttempt before).1 = .error (stage, raised))
    (noted : stage ≠ .note)
    (actions : execution.actions = rounds.flatMap setup.roundActions)
    (ending : execution.ending = .disturbed stage)
    (outcome : execution.outcome = .error raised) :
    ∃ earlier last, setup.StopsInTime sleeps execution earlier last := by
  obtain ⟨rfl, notFirst, handler, event, handles, answer, raises, escapes⟩ :=
    beforeAttempt_eq_error announced noted
  -- before the first attempt nothing is announced, so there is a last round
  rcases List.eq_nil_or_concat rounds with rfl | ⟨passed, round, rfl⟩
  · exact absurd stands.attempts notFirst
  · rw [List.concat_eq_append] at goOn numbers actions
    have each := GoesOn.each goOn
    rw [List.map_append, List.map_singleton] at each
    obtain ⟨_, retried, noReason⟩ := each _ _ [] rfl
    refine ⟨passed.map Round.judgement, round.judgement, ?_, ?_, ?_, ?_, ?_⟩
    · rw [Execution.judgements, actions, judgements_roundActions, List.map_append,
        List.map_singleton]
    · rw [Execution.attemptNumbers, actions, attemptNumbers_roundActions, numbers,
        List.length_append, List.length_singleton, List.length_map]
    · exact fun earlier judgement later split => (each earlier judgement later split).1
    · intro earlier judgement later split
      rw [split, List.append_assoc, List.cons_append] at each
      exact (each earlier judgement _ rfl).2
    · rw [ending, outcome]
      exact .interrupted noReason retried handler event answer raised handles raises escapes

variable [RandomSource ρ] [Clock κ]

theorem run_rounds (judgeable : setup.NeverAsksAgain) (clock : κ) (sleeps : Nat) (source : ρ)
    (noted : (setup.run clock sleeps source).ending ≠ .disturbed .note) :
    ∃ (rounds : List Round) (last : Progress ρ κ) (shown : List Action) (after : Progress ρ κ)
      (ended : Option (Ending × Except Failure Value)),
      HasJudged (rounds.map Round.judgement) last ∧
      (∀ passed round later, rounds = passed ++ round :: later →
        round.GoesOn setup (passed.map Round.judgement)) ∧
      rounds.map Round.number = List.range' 1 rounds.length ∧
      setup.Turned last shown after ended ∧
      (setup.run clock sleeps source).actions = rounds.flatMap setup.roundActions ++ shown ∧
      ((setup.run clock sleeps source).ending, (setup.run clock sleeps source).outcome) =
        ended.getD (.refused, .error setup.sleepRefusal) ∧
      (ended = none → rounds.length = sleeps) := by
  revert noted
  unfold run
  rcases Clock.read clock with ⟨started, clock⟩
  intro noted
  obtain ⟨rounds, last, shown, after, ended, reached, turned, actions, ends, exhausted⟩ :=
    runFrom_rounds judgeable started sleeps { clock := clock, source := source } noted
  obtain ⟨stands, goOn⟩ := reached.stands [] (hasJudged_nil clock source)
  obtain ⟨numbers, _⟩ := reached.numbers
  exact ⟨rounds, last, shown, after, ended, stands, goOn, numbers, turned, actions, ends,
    exhausted⟩

/-- A run goes on as long as there is no reason to stop, and it stops at the first one, unless a
sleep is refused or something gets out of a handler before that. -/
theorem run_stops_at_first_reason (setup : RunSetup) (clock : κ) (sleeps : Nat) (source : ρ)
    (judgeable : setup.NeverAsksAgain)
    (undisturbed : ∀ stage, (setup.run clock sleeps source).ending = .disturbed stage →
      stage = .announcement) :
    ∃ earlier last, setup.StopsInTime sleeps (setup.run clock sleeps source) earlier last := by
  have noted : (setup.run clock sleeps source).ending ≠ .disturbed .note :=
    fun ending => nomatch undisturbed .note ending
  obtain ⟨rounds, last, shown, after, ended, stands, goOn, numbers, turned, actions, ends,
    exhausted⟩ := run_rounds judgeable clock sleeps source noted
  obtain ⟨ending, outcome⟩ := Prod.mk.inj ends
  cases turned with
  | unannounced stage raised announced =>
      cases undisturbed stage ending
      rw [List.append_nil] at actions
      exact stopsInTime_unannounced stands goOn numbers announced (fun same => nomatch same)
        actions ending outcome
  | unjudged stage raised shown after cause =>
      cases undisturbed stage ending
      simp at cause
  | settled isFailure verdict history after judged final =>
      have remembers := judged.remembers stands
      have reason := judged.stops_iff.mp final
      rw [remembers.attemptNumber, stands.attempts] at reason
      rw [← List.append_nil (setup.judgementActions _ _ _ _)] at actions
      refine ⟨_, _, judged.stopsInTime stands goOn numbers actions rfl rfl ?_⟩
      rw [ending, outcome]
      change setup.EndsAfter sleeps _ _ .settled (setup.outcomeAfter last.attempts)
      rw [stands.attempts]
      exact .settled reason final
  | overflowed delay history error after judged overflow =>
      cases undisturbed .summation ending
  | slept delay history after judged summed counted =>
      refine ⟨_, _, judged.stopsInTime stands goOn numbers actions rfl rfl ?_⟩
      rw [ending, outcome]
      exact .refused (judged.goesOn stands) rfl (by rw [List.length_map, exhausted rfl])

/-! ## A run of two attempts -/

def failingOnce (policy : Policy) : RunSetup where
  policy := policy
  power base _ := base
  operation _ made :=
    if made = 0 then ⟨.zero, .error (.valueError "first")⟩ else ⟨.zero, .ok (.int 1)⟩
  sleepRefusal := ⟨.keyboardInterrupt, none⟩

def askingOnce (policy : Policy) : RunSetup :=
  { failingOnce policy with
    operation := fun _ made =>
      if made = 0 then ⟨.zero, .error ⟨tryAgain, none⟩⟩ else ⟨.zero, .ok (.int 1)⟩ }

def standardPolicy : Policy := ⟨{}, by decide +kernel⟩

def stoppingHandler : Handler :=
  ⟨.own 0, "stop", fun _ => some { failure := ⟨.keyboardInterrupt, none⟩ }⟩

def stoppedPolicy : Policy := ⟨{ handlers := { retry := some stoppingHandler } }, by decide +kernel⟩

theorem failingOnce_neverAsksAgain (policy : Policy) : (failingOnce policy).NeverAsksAgain := by
  intro attempts
  cases attempts with
  | zero =>
      change asksAgain (.error (.valueError "first")) = false
      decide +kernel
  | succ attempts => rfl

def noNumbers : Shared Scripted := ⟨{ numbers := #[] }⟩

/-- The run stops after the second attempt, which succeeds. -/
theorem run_stops_at_first_reason_of_success :
    ∃ earlier last,
      ((failingOnce standardPolicy).run Binary64.zero 5 noNumbers).judgements =
        earlier ++ [last] ∧
      ((failingOnce standardPolicy).run Binary64.zero 5 noNumbers).attemptNumbers = [1, 2] ∧
      (failingOnce standardPolicy).HasReason earlier last ∧
      last.history.attemptNumber = 2 := by
  have settles :
      ((failingOnce standardPolicy).run Binary64.zero 5 noNumbers).ending = .settled := by
    decide +kernel
  have attempts :
      ((failingOnce standardPolicy).run Binary64.zero 5 noNumbers).attemptNumbers = [1, 2] := by
    decide +kernel
  obtain ⟨earlier, last, stops⟩ :=
    run_stops_at_first_reason (failingOnce standardPolicy) Binary64.zero 5 noNumbers
      (failingOnce_neverAsksAgain standardPolicy) (by
      intro stage disturbed
      rw [settles] at disturbed
      cases disturbed)
  have one : earlier.length = 1 := by
    have lengths := congrArg List.length (attempts.symm.trans stops.attemptNumbers)
    simpa using lengths.symm
  refine ⟨earlier, last, stops.judgements, attempts, ?_, ?_⟩
  · have ends := stops.ends
    rw [settles] at ends
    generalize ((failingOnce standardPolicy).run Binary64.zero 5 noNumbers).outcome = outcome
      at ends
    cases ends with
    | settled reason final => exact reason
  · rw [(stops.remembers earlier last [] rfl).attemptNumber, one]
    rfl

/-- If the handler of retries stops the program, the run ends after the first attempt, although the
second one is the first with a reason to stop. -/
theorem run_interrupted_without_reason :
    ((failingOnce stoppedPolicy).run Binary64.zero 5 noNumbers).ending =
        .disturbed .announcement ∧
      ((failingOnce stoppedPolicy).run Binary64.zero 5 noNumbers).attemptNumbers = [1] ∧
      failureOf ((failingOnce stoppedPolicy).run Binary64.zero 5 noNumbers).outcome =
        some ⟨.keyboardInterrupt, none⟩ ∧
      (∀ elapsed, ¬ (failingOnce stoppedPolicy).StopsAfter 1 elapsed
        ((failingOnce stoppedPolicy).outcomeAfter 0)) ∧
      ∀ elapsed, (failingOnce stoppedPolicy).StopsAfter 2 elapsed
        ((failingOnce stoppedPolicy).outcomeAfter 1) := by
  refine ⟨by decide +kernel, by decide +kernel, by decide +kernel, ?_, ?_⟩
  · have failed : ((failingOnce stoppedPolicy).classify
        ((failingOnce stoppedPolicy).outcomeAfter 0)).1 = .ok true := by
      rfl
    intro elapsed reason
    rcases reason with ⟨condition, member, _⟩ | succeeded | ⟨_, exhausted⟩ | ⟨limit, given, _⟩
    · exact absurd member List.not_mem_nil
    · rw [failed] at succeeded
      cases succeeded
    · exact absurd exhausted (by decide)
    · cases given
  · intro elapsed
    exact Or.inr (Or.inl rfl)

end RunSetup
end Reattempt
