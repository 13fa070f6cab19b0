import Mathlib.Tactic
import Reattempt.Proofs.Decimal.Limit
import Reattempt.Proofs.Execution.Observers
import Reattempt.Proofs.Execution.Trace

/-!
# A higher limit on retries

Only the answer to whether the retries are exhausted depends on the limit on retries. With a higher
limit a run is the same run, or it goes on where the retries were exhausted before (`run_outlasted`,
`raised_limit_extends_run`). By the invariant `CountsAttempts`, an attempt that was noted can be
noted again when it is judged.
-/

set_option autoImplicit false

namespace Reattempt

/-! ## Evaluations -/

/-- The second policy differs from the first one in its limit on retries at most, which is higher
or none. -/
structure RaisesLimit (policy other : Policy) : Prop where
  alike : other.toSettings = { policy.toSettings with maxRetries := other.maxRetries }
  limited : 0 ≤ policy.maxRetries
  higher : policy.maxRetries ≤ other.maxRetries ∨ other.maxRetries = -1

namespace RaisesLimit

variable {policy other : Policy}

theorem sameHandlers (raises : RaisesLimit policy other) : other.handlers = policy.handlers := by
  rw [raises.alike]

theorem sameConditions (raises : RaisesLimit policy other) :
    other.abortConditions = policy.abortConditions := by
  rw [raises.alike]

theorem sameMaxDuration (raises : RaisesLimit policy other) :
    other.maxDuration = policy.maxDuration := by
  rw [raises.alike]

theorem sameDelay {ρ : Type} [RandomSource ρ] (raises : RaisesLimit policy other) (power : Power)
    (history : History) (source : ρ) :
    Delay.compute power other.toSettings history source =
      Delay.compute power policy.toSettings history source := by
  rw [raises.alike]
  rfl

/-- Retries that are exhausted under the higher limit are exhausted under the lower one. -/
theorem exceeded (raises : RaisesLimit policy other) {history : History}
    (exhausted : other.retriesExceeded history = true) :
    policy.retriesExceeded history = true := by
  have limited := raises.limited
  rw [Settings.retriesExceeded_iff] at exhausted ⊢
  rw [raises.sameMaxDuration] at exhausted
  rcases exhausted with ⟨someLimit, reached⟩ | late
  · left
    rcases raises.higher with higher | none
    · exact ⟨by omega, by omega⟩
    · exact absurd none someLimit
  · exact Or.inr late

end RaisesLimit

namespace Decision

variable {ρ : Type}

/-- After these actions, the decision is that the retries are exhausted. -/
def GivesUpAfter (policy : Policy) (shown : List Action) (decision : Decision ρ) : Prop :=
  ∃ event source, decision =
    (announce policy .retriesExceeded event .retriesExceeded source).after shown

theorem GivesUpAfter.later {policy : Policy} {shown : List Action} {decision : Decision ρ}
    (givesUp : decision.GivesUpAfter policy shown) (earlier : List Action) :
    (decision.after earlier).GivesUpAfter policy (earlier ++ shown) := by
  obtain ⟨event, source, rfl⟩ := givesUp
  refine ⟨event, source, ?_⟩
  simp only [after, List.append_assoc]

/-- The longer decision is the shorter one, or the shorter one gives up after something that the
longer one shows as well. -/
def Outlasted (policy : Policy) (shorter longer : Decision ρ) : Prop :=
  longer = shorter ∨
    ∃ shown, shorter.GivesUpAfter policy shown ∧ shown <+: longer.actions

theorem Outlasted.later {policy : Policy} {shorter longer : Decision ρ}
    (outlasted : Outlasted policy shorter longer) (earlier : List Action) :
    Outlasted policy (shorter.after earlier) (longer.after earlier) := by
  rcases outlasted with rfl | ⟨shown, givesUp, reached⟩
  · exact Or.inl rfl
  · exact Or.inr ⟨earlier ++ shown, givesUp.later earlier,
      (List.prefix_append_right_inj _).mpr reached⟩

end Decision

namespace RaisesLimit

variable {ρ : Type} [RandomSource ρ] {policy other : Policy}

variable {history : History}

theorem conclude_outlasted (raises : RaisesLimit policy other)
    (writable : Decimal.isWritable history.attemptNumber = true) (power : Power)
    (isFailure isAbortable : Bool) (facts : AttemptFacts) (source : ρ) :
    Decision.Outlasted policy (policy.conclude power history isFailure isAbortable facts source)
      (other.conclude power history isFailure isAbortable facts source) := by
  have sameNotice (occasion : Occasion) (event : Event) (verdict : Verdict) (source : ρ) :
      Decision.announce other occasion event verdict source =
        Decision.announce policy occasion event verdict source := by
    unfold Decision.announce
    rw [raises.sameHandlers]
  unfold Policy.conclude
  rw [raises.sameDelay]
  simp only [sameNotice]
  cases isAbortable with
  | true => exact Or.inl rfl
  | false =>
      cases isFailure with
      | false => exact Or.inl rfl
      | true =>
          simp only [Bool.false_eq_true, if_false, Bool.not_true]
          cases exhausted : policy.retriesExceeded history with
          | true =>
              refine Or.inr ⟨[], ⟨.completed facts, source, ?_⟩, List.nil_prefix⟩
              simp only [if_true, Decision.noted_of_writable writable, Decision.after,
                List.nil_append]
          | false =>
              have goesOn : other.retriesExceeded history = false := by
                by_contra reached
                rw [raises.exceeded (eq_true_of_ne_false reached)] at exhausted
                cases exhausted
              rw [goesOn]
              exact Or.inl rfl

theorem decide_outlasted (raises : RaisesLimit policy other)
    (writable : Decimal.isWritable history.attemptNumber = true) (power : Power)
    (isFailure isAbortable : Bool) (result : Value) (failure : Option Failure) (source : ρ) :
    Decision.Outlasted policy
      (policy.decide power history isFailure isAbortable result failure source)
      (other.decide power history isFailure isAbortable result failure source) := by
  unfold Policy.decide
  rw [raises.sameHandlers]
  dsimp only
  generalize (if isFailure then policy.handlers.fire .failedAttempt
    (.attempted (history.facts result failure)) else (.ok (), [])) = announcement
  obtain ⟨answer, announced⟩ := announcement
  cases answer with
  | error raised => exact Or.inl rfl
  | ok told => exact (raises.conclude_outlasted writable _ _ _ _ _).later announced

theorem evaluate_outlasted (raises : RaisesLimit policy other)
    (writable : Decimal.isWritable history.attemptNumber = true) (power : Power)
    (outcome : Outcome) (source : ρ) :
    Decision.Outlasted policy (policy.evaluate power history outcome source)
      (other.evaluate power history outcome source) := by
  have sameAnswer : other.isAbortable outcome.result outcome.failure =
      policy.isAbortable outcome.result outcome.failure := by
    unfold Policy.isAbortable
    rw [raises.sameConditions]
  unfold Policy.evaluate
  rw [sameAnswer]
  rcases policy.isAbortable outcome.result outcome.failure with ⟨answer, asked⟩
  cases answer with
  | error raised => exact Or.inl rfl
  | ok isAbortable => exact (raises.decide_outlasted writable _ _ _ _ _ _).later _

end RaisesLimit

/-! ## Counts -/

section Counts

variable {ρ κ : Type} {setup : RunSetup} {before : Progress ρ κ}

/-- No more attempts are recorded than were made; those that ask for another one are not. -/
def Progress.CountsAttempts (progress : Progress ρ κ) : Prop :=
  0 ≤ progress.history.attemptNumber ∧ progress.history.attemptNumber ≤ progress.attempts

namespace RunSetup

theorem countsAttempts_first (clock : κ) (source : ρ) :
    ({ clock := clock, source := source } : Progress ρ κ).CountsAttempts :=
  ⟨le_rfl, le_rfl⟩

/-- The number that an attempt is recorded with can be written if that of the attempt itself can. -/
theorem isWritable_of_announced (counted : before.CountsAttempts) {told : Unit}
    (announced : (setup.beforeAttempt before).1 = .ok told) :
    Decimal.isWritable (before.history.attemptNumber + 1) = true := by
  obtain ⟨nonnegative, few⟩ := counted
  unfold beforeAttempt at announced
  split at announced
  · rename_i first
    have unrecorded : before.history.attemptNumber = 0 := by omega
    rw [unrecorded]
    exact Decimal.isWritable_one
  · split at announced
    · rename_i writable
      obtain ⟨recorded, same⟩ := Int.eq_ofNat_of_zero_le nonnegative
      rw [same] at few ⊢
      have next : recorded + 1 ≤ before.attempts + 1 := by omega
      exact Decimal.isWritable_of_le next writable
    · cases announced

theorem attempted_countsAttempts [Clock κ] (setup : RunSetup) (counted : before.CountsAttempts) :
    (setup.attempted before).CountsAttempts := by
  obtain ⟨nonnegative, few⟩ := counted
  refine ⟨nonnegative, ?_⟩
  change before.history.attemptNumber ≤ ((before.attempts + 1 : ℕ) : ℤ)
  omega

theorem pause_countsAttempts [Clock κ] (counted : before.CountsAttempts) (delay : Duration) :
    (pause delay before).progress.CountsAttempts := by
  unfold pause
  split
  · exact counted
  · rename_i waited summed
    obtain ⟨total, rfl, -⟩ := recordDelay_eq_ok summed
    exact counted

theorem wait_countsAttempts [Clock κ] (counted : before.CountsAttempts) (verdict : Verdict)
    (outcome : Except Failure Value) : (wait verdict outcome before).progress.CountsAttempts := by
  cases verdict with
  | retry delay => exact pause_countsAttempts counted delay
  | succeed => exact counted
  | abort => exact counted
  | retriesExceeded => exact counted

variable [Clock κ] [RandomSource ρ]

/-- A judgement records the attempt that was just made, or nothing. -/
theorem judge_countsAttempts (setup : RunSetup) (started : Binary64)
    (counted : before.CountsAttempts) (outcome : Except Failure Value) :
    (setup.judge started (setup.attempted before) outcome).2.1.CountsAttempts := by
  rcases classification : setup.classify outcome with ⟨answer, asked⟩
  cases answer with
  | error raised =>
      rw [judge_unclassified classification]
      exact attempted_countsAttempts setup counted
  | ok isFailure =>
      cases measured : elapsedBetween started (Clock.read (setup.attempted before).clock).1 with
      | error error =>
          rw [judge_unmeasured classification measured]
          exact attempted_countsAttempts setup counted
      | ok elapsed =>
          rw [judge_decided classification measured, decided]
          have recorded : 0 ≤ before.history.attemptNumber + 1 ∧
              before.history.attemptNumber + 1 ≤ ((before.attempts + 1 : ℕ) : ℤ) := by
            obtain ⟨nonnegative, few⟩ := counted
            omega
          split
          · exact recorded
          · exact recorded

theorem turn_countsAttempts (setup : RunSetup) (started : Binary64)
    (counted : before.CountsAttempts) :
    (setup.turn started before).progress.CountsAttempts := by
  rcases announcement : setup.beforeAttempt before with ⟨answer, announced⟩
  cases answer with
  | error raised =>
      rw [turn_unannounced announcement]
      exact counted
  | ok told =>
      cases again : asksAgain (setup.outcomeAfter before.attempts) with
      | true =>
          rw [turn_askedAgain announcement again]
          exact pause_countsAttempts (attempted_countsAttempts setup counted) before.delay
      | false =>
          rw [turn_announced announcement again, judgedTurn]
          have judged := setup.judge_countsAttempts started counted
            (setup.outcomeAfter before.attempts)
          split
          · exact judged
          · exact wait_countsAttempts judged _ _

end RunSetup
end Counts

/-! ## Runs -/

def Execution.finalVerdict? {ρ κ : Type} (execution : Execution ρ κ) : Option Verdict :=
  execution.judgements.getLast?.map Judgement.verdict

namespace RunSetup

variable {ρ κ : Type} {setup : RunSetup} {other : Policy}

/-- How a run gives up: the exhausted retries are announced, and then the verdict on them settles
the run, unless something gets out of the handler. -/
inductive GivesUp (setup : RunSetup) : List Action → Ending → Except Failure Value → Prop
  | settled (event : Event) (history : History) (outcome : Except Failure Value) :
      GivesUp setup
        (setup.policy.handlers.notice .retriesExceeded event ++
          [.judged .retriesExceeded history])
        .settled outcome
  | stopped (handler : Handler) (event : Event) (raised : Raised) (gotOut : Failure)
      (handles : setup.policy.handlers.retriesExceeded = some handler)
      (raises : handler.raises event = some raised) (escapes : raised.escaped = some gotOut) :
      GivesUp setup [.fired .retriesExceeded handler event] (.disturbed .evaluation)
        (.error gotOut)

def TurnOutlasted (setup : RunSetup) (shorter longer : Turn ρ κ) : Prop :=
  longer = shorter ∨
    ∃ early closing ending outcome, shorter.actions = early ++ closing ∧
      shorter.ended = some (ending, outcome) ∧ setup.GivesUp closing ending outcome ∧
      early <+: longer.actions

def RunOutlasted (setup : RunSetup) (shorter longer : Execution ρ κ) : Prop :=
  longer = shorter ∨
    ∃ early closing, shorter.actions = early ++ closing ∧
      setup.GivesUp closing shorter.ending shorter.outcome ∧ early <+: longer.actions

theorem RunOutlasted.later {shorter longer : Execution ρ κ}
    (outlasted : setup.RunOutlasted shorter longer) (earlier : List Action) :
    setup.RunOutlasted (shorter.after earlier) (longer.after earlier) := by
  rcases outlasted with rfl | ⟨early, closing, actions, givesUp, reached⟩
  · exact Or.inl rfl
  · refine Or.inr ⟨earlier ++ early, closing, ?_, givesUp, ?_⟩
    · simp only [Execution.after, actions, List.append_assoc]
    · exact (List.prefix_append_right_inj earlier).mpr reached

theorem notice_of_stopping {handlers : Handlers} {occasion : Occasion} {event : Event}
    {gotOut : Failure} (answer : (handlers.fire occasion event).1 = .error gotOut) :
    ∃ handler raised, handlers.get occasion = some handler ∧
      handler.raises event = some raised ∧ raised.escaped = some gotOut ∧
      handlers.notice occasion event = [.fired occasion handler event] := by
  obtain ⟨handler, handles, raised, raises, escapes⟩ :=
    (Handlers.fire_eq_error_iff _ _ _ _).mp answer
  refine ⟨handler, raised, handles, raises, escapes, ?_⟩
  rw [Handlers.notice, handles]
  rfl

variable [Clock κ]

/-- A turn shows what its evaluation shows, and the rest after it. -/
theorem judgedTurn_shows (setup : RunSetup) (before : Progress ρ κ) (announced : List Action)
    (attempted : Progress ρ κ) (clock : κ) (history : History) (asked : List Action)
    (decision : Decision ρ) :
    announced ++ setup.attemptAction before :: (asked ++ decision.actions) <+:
      (setup.judgedTurn before announced
        (decided attempted clock history asked decision)).actions := by
  unfold judgedTurn decided
  cases decision.verdict with
  | error raised => exact List.prefix_rfl
  | ok verdict =>
      refine List.IsPrefix.trans ?_ (List.prefix_append _ _)
      rw [List.prefix_append_right_inj, List.cons_prefix_cons]
      exact ⟨rfl, List.prefix_append _ _⟩

theorem judgedTurn_outlasted (setup : RunSetup) (before : Progress ρ κ)
    (announced : List Action) (attempted : Progress ρ κ) (clock : κ) (history : History)
    (asked : List Action) {shorter longer : Decision ρ}
    (outlasted : Decision.Outlasted setup.policy shorter longer) :
    setup.TurnOutlasted
      (setup.judgedTurn before announced (decided attempted clock history asked shorter))
      (setup.judgedTurn before announced (decided attempted clock history asked longer)) := by
  rcases outlasted with rfl | ⟨shown, ⟨event, source, rfl⟩, reached⟩
  · exact Or.inl rfl
  · have shared : announced ++ setup.attemptAction before :: (asked ++ shown) <+:
        (setup.judgedTurn before announced
          (decided attempted clock history asked longer)).actions := by
      refine List.IsPrefix.trans ?_ (setup.judgedTurn_shows before announced _ _ _ _ longer)
      rw [List.prefix_append_right_inj, List.cons_prefix_cons, List.prefix_append_right_inj]
      exact ⟨rfl, reached⟩
    right
    have told := setup.policy.handlers.fire_actions .retriesExceeded event
    cases answer : (setup.policy.handlers.fire .retriesExceeded event).1 with
    | ok heard =>
        refine ⟨_, _, _, _, ?_, ?_,
          .settled event history (setup.outcomeAfter before.attempts), shared⟩
        · simp only [judgedTurn, decided, Decision.announce, Decision.after, answer, told,
            Except.map, wait, List.append_assoc, List.cons_append, List.append_nil]
        · simp only [judgedTurn, decided, Decision.announce, Decision.after, answer, Except.map,
            wait]
    | error gotOut =>
        obtain ⟨handler, raised, handles, raises, escapes, notice⟩ := notice_of_stopping answer
        refine ⟨_, _, _, _, ?_, ?_,
          .stopped handler event raised gotOut handles raises escapes, shared⟩
        · simp only [judgedTurn, decided, Decision.announce, Decision.after, answer, told, notice,
            Except.map, List.append_assoc, List.cons_append]
        · simp only [judgedTurn, decided, Decision.announce, Decision.after, answer, Except.map]

variable [RandomSource ρ]

theorem evaluate_outlasted (raises : RaisesLimit setup.policy other) {history : History}
    (writable : Decimal.isWritable history.attemptNumber = true) (outcome : Outcome)
    (source : ρ) :
    Decision.Outlasted setup.policy (setup.evaluate history outcome source)
      ((setup.under other).evaluate history outcome source) := by
  unfold evaluate under
  dsimp only
  split
  · exact raises.evaluate_outlasted writable _ _ _
  · exact Or.inl rfl

theorem judge_outlasted (raises : RaisesLimit setup.policy other) (started : Binary64)
    (before : Progress ρ κ) (announced : List Action)
    (writable : Decimal.isWritable (before.history.attemptNumber + 1) = true) :
    setup.TurnOutlasted
      (setup.judgedTurn before announced
        (setup.judge started (setup.attempted before) (setup.outcomeAfter before.attempts)))
      ((setup.under other).judgedTurn before announced
        ((setup.under other).judge started ((setup.under other).attempted before)
          ((setup.under other).outcomeAfter before.attempts))) := by
  rcases classification : setup.classify (setup.outcomeAfter before.attempts) with ⟨class?, asked⟩
  have sameClassification :
      (setup.under other).classify ((setup.under other).outcomeAfter before.attempts) =
        (class?, asked) := classification
  cases class? with
  | error raised =>
      rw [judge_unclassified classification, judge_unclassified sameClassification]
      exact Or.inl rfl
  | ok isFailure =>
      cases measured : elapsedBetween started (Clock.read (setup.attempted before).clock).1 with
      | error error =>
          have alsoMeasured : elapsedBetween started
            (Clock.read ((setup.under other).attempted before).clock).1 = .error error := measured
          rw [judge_unmeasured classification measured,
            judge_unmeasured sameClassification alsoMeasured]
          exact Or.inl rfl
      | ok elapsed =>
          have alsoMeasured : elapsedBetween started
            (Clock.read ((setup.under other).attempted before).clock).1 = .ok elapsed := measured
          rw [judge_decided classification measured,
            judge_decided sameClassification alsoMeasured]
          exact setup.judgedTurn_outlasted before announced _ _ _ asked
            (evaluate_outlasted raises writable _ _)

theorem turn_outlasted (raises : RaisesLimit setup.policy other) (started : Binary64)
    {before : Progress ρ κ} (counted : before.CountsAttempts) :
    setup.TurnOutlasted (setup.turn started before) ((setup.under other).turn started before) := by
  have sameAnnouncement : (setup.under other).beforeAttempt before =
      setup.beforeAttempt before := by
    unfold beforeAttempt under
    rw [raises.sameHandlers]
  rcases announcement : setup.beforeAttempt before with ⟨answer, announced⟩
  rw [announcement] at sameAnnouncement
  cases answer with
  | error raised =>
      rw [turn_unannounced announcement, turn_unannounced sameAnnouncement]
      exact Or.inl rfl
  | ok told =>
      cases again : asksAgain (setup.outcomeAfter before.attempts) with
      | true =>
          rw [turn_askedAgain announcement again, turn_askedAgain sameAnnouncement again]
          exact Or.inl rfl
      | false =>
          rw [turn_announced announcement again, turn_announced sameAnnouncement again]
          exact judge_outlasted raises started before announced
            (isWritable_of_announced counted (by rw [announcement]))

theorem runFrom_outlasted (raises : RaisesLimit setup.policy other) (started : Binary64)
    (sleeps : Nat) : ∀ first : Progress ρ κ, first.CountsAttempts →
    setup.RunOutlasted (setup.runFrom started sleeps first)
      ((setup.under other).runFrom started sleeps first) := by
  -- as long as the turns are the same, both runs stand at the same place with the same source
  induction sleeps with
  | zero =>
      intro first counted
      rcases turn_outlasted raises started counted with
        same | ⟨early, closing, ending, outcome, actions, ended, givesUp, reached⟩
      · left
        cases ended : (setup.turn started first).ended with
        | none => rw [runFrom_refused ended, runFrom_refused (same ▸ ended), same]; rfl
        | some result => rw [runFrom_ended ended, runFrom_ended (same ▸ ended), same]
      · rw [runFrom_ended ended]
        exact Or.inr ⟨early, closing, actions, givesUp,
          reached.trans (runFrom_shows_turn _ started 0 first)⟩
  | succ sleeps ih =>
      intro first counted
      rcases turn_outlasted raises started counted with
        same | ⟨early, closing, ending, outcome, actions, ended, givesUp, reached⟩
      · cases ended : (setup.turn started first).ended with
        | none =>
            rw [runFrom_slept ended, runFrom_slept (same ▸ ended), same]
            exact (ih _ (setup.turn_countsAttempts started counted)).later _
        | some result =>
            left
            rw [runFrom_ended ended, runFrom_ended (same ▸ ended), same]
      · rw [runFrom_ended ended]
        exact Or.inr ⟨early, closing, actions, givesUp,
          reached.trans (runFrom_shows_turn _ started (sleeps + 1) first)⟩

theorem run_outlasted (raises : RaisesLimit setup.policy other) (clock : κ) (sleeps : Nat)
    (source : ρ) :
    setup.RunOutlasted (setup.run clock sleeps source)
      ((setup.under other).run clock sleeps source) := by
  unfold run
  rcases Clock.read clock with ⟨started, clock⟩
  exact runFrom_outlasted raises started sleeps { clock := clock, source := source }
    (countsAttempts_first clock source)

/-- The run ended in the call of the handler for exhausted retries, which something got out of. -/
def StoppedWhenExceeded (setup : RunSetup) (execution : Execution ρ κ) : Prop :=
  ∃ early handler event raised gotOut,
    setup.policy.handlers.retriesExceeded = some handler ∧
    handler.raises event = some raised ∧ raised.escaped = some gotOut ∧
    execution.actions = early ++ [.fired .retriesExceeded handler event] ∧
    execution.outcome = .error gotOut

theorem GivesUp.unheard {closing : List Action} {ending : Ending}
    {outcome : Except Failure Value} (givesUp : setup.GivesUp closing ending outcome) :
    Action.unheard closing = [] ∨
      ∃ history, Action.unheard closing = [.judged .retriesExceeded history] := by
  cases givesUp with
  | settled event history _ =>
      refine Or.inr ⟨history, ?_⟩
      rw [Action.unheard_append, Handlers.unheard_notice]
      rfl
  | stopped handler event raised gotOut handles raises escapes => exact Or.inl rfl

/-- With a higher limit on retries, or none, everything but the handlers' calls happens as before,
up to the verdict that the retries are exhausted. If that is not the final verdict, then the runs
are the same, unless something got out of the handler for exhausted retries. -/
theorem raised_limit_extends_run (setup : RunSetup) (other : Policy) (clock : κ) (sleeps : Nat)
    (source : ρ) (raises : RaisesLimit setup.policy other) :
    (∃ early closing,
      Action.unheard (setup.run clock sleeps source).actions = early ++ closing ∧
      early <+: Action.unheard ((setup.under other).run clock sleeps source).actions ∧
      (closing = [] ∨ ∃ history, closing = [.judged .retriesExceeded history])) ∧
    ((setup.run clock sleeps source).finalVerdict? ≠ some .retriesExceeded →
      (setup.under other).run clock sleeps source = setup.run clock sleeps source ∨
        setup.StoppedWhenExceeded (setup.run clock sleeps source)) := by
  rcases run_outlasted raises clock sleeps source with
    same | ⟨early, closing, actions, givesUp, reached⟩
  · refine ⟨⟨_, [], (List.append_nil _).symm, ?_, Or.inl rfl⟩, fun _ => Or.inl same⟩
    rw [same]
  · refine ⟨⟨Action.unheard early, Action.unheard closing, ?_, reached.filter _,
      givesUp.unheard⟩, fun notExceeded => ?_⟩
    · rw [actions, Action.unheard_append]
    · generalize setup.run clock sleeps source = shorter at *
      obtain ⟨outcome, ending, shown, progress⟩ := shorter
      dsimp only at actions givesUp
      subst actions
      cases givesUp with
      | settled event history _ =>
          refine absurd ?_ notExceeded
          simp [Execution.finalVerdict?, Execution.judgements, Action.judgement?]
      | stopped handler event raised gotOut handles raises escapes =>
          exact Or.inr
            ⟨early, handler, event, raised, gotOut, handles, raises, escapes, rfl, rfl⟩

/-! ## Two limits -/

def singleRetryPolicy : Policy := ⟨{ maxRetries := 1 }, by decide +kernel⟩

def endlessRetriesPolicy : Policy := ⟨{ maxRetries := -1 }, by decide +kernel⟩

theorem raisesLimit_endless (handlers : Handlers) :
    RaisesLimit (singleRetryPolicy.withHandlers handlers)
      (endlessRetriesPolicy.withHandlers handlers) where
  alike := by simp only [singleRetryPolicy, endlessRetriesPolicy, Policy.withHandlers]
  limited := by
    change (0 : Int) ≤ 1
    decide
  higher := Or.inr rfl

/-- Two failures exhaust a single retry; without a limit the run goes on. -/
theorem raised_limit_extends_failing_run :
    let setup := failingAlways (singleRetryPolicy.withHandlers quietHandlers)
    let other := endlessRetriesPolicy.withHandlers quietHandlers
    RaisesLimit setup.policy other ∧
    (setup.run Binary64.zero 5 noNumbers).finalVerdict? = some .retriesExceeded ∧
    ∃ early closing,
      Action.unheard (setup.run Binary64.zero 5 noNumbers).actions = early ++ closing ∧
      early <+: Action.unheard ((setup.under other).run Binary64.zero 5 noNumbers).actions ∧
      (closing = [] ∨ ∃ history, closing = [.judged .retriesExceeded history]) := by
  intro setup other
  have raises : RaisesLimit setup.policy other := raisesLimit_endless quietHandlers
  refine ⟨raises, by decide +kernel, ?_⟩
  exact (raised_limit_extends_run setup other Binary64.zero 5 noNumbers raises).1

/-- If the handler for exhausted retries stops the program, then no verdict says that they are
exhausted, and still a higher limit makes for more attempts. -/
theorem raised_limit_extends_stopped_run :
    let handlers : Handlers := { retriesExceeded := some stoppingHandler }
    let setup := failingAlways (singleRetryPolicy.withHandlers handlers)
    let other := endlessRetriesPolicy.withHandlers handlers
    RaisesLimit setup.policy other ∧
    (setup.run Binary64.zero 5 noNumbers).finalVerdict? = some (.retry .zero) ∧
    (setup.run Binary64.zero 5 noNumbers).attemptNumbers = [1, 2] ∧
    failureOf (setup.run Binary64.zero 5 noNumbers).outcome = some ⟨.keyboardInterrupt, none⟩ ∧
    ((setup.under other).run Binary64.zero 5 noNumbers).attemptNumbers = [1, 2, 3, 4, 5, 6] := by
  refine ⟨raisesLimit_endless _, by decide +kernel, by decide +kernel, by decide +kernel,
    by decide +kernel⟩

end RunSetup
end Reattempt
