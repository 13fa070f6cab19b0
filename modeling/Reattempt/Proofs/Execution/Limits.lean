import Mathlib.Tactic
import Reattempt.Execution.Handoff
import Reattempt.Proofs.Execution.Trace
import Reattempt.Proofs.Settings.Consistency

/-!
# Limits on retries

The limits are consulted in three places: a query whether they leave room for any retry, the number
of attempts that they allow, and the question after each failed attempt whether they are reached.
The three agree with each other, and every run keeps to them (`limits_agree`).
-/

set_option autoImplicit false

namespace Reattempt

/-! ## What is asked about the limits -/

namespace Settings

variable {settings : Settings}

theorem allowsRetries_iff (settings : Settings) :
    settings.allowsRetries = true ↔
      (settings.maxRetries = -1 ∨ 0 < settings.maxRetries) ∧
        ∀ limit ∈ settings.maxDuration, Duration.zero < limit := by
  simp [allowsRetries, Option.all_eq_true]

theorem maxAttempts_of_limited (limited : settings.maxAttempts ≠ -1) :
    settings.maxRetries ≠ -1 ∧ settings.maxAttempts = settings.maxRetries + 1 := by
  unfold maxAttempts at limited ⊢
  split
  · rename_i unlimited
    exact absurd (if_pos unlimited) limited
  · rename_i bounded
    exact ⟨bounded, rfl⟩

/-- Limits that leave no room for a retry are reached by the first attempt, however short it is. -/
theorem retriesExceeded_of_not_allowed (bounded : -1 ≤ settings.maxRetries)
    (exhausted : settings.allowsRetries = false) {history : History}
    (attempted : 1 ≤ history.attemptNumber) (nonnegative : .zero ≤ history.elapsed) :
    settings.retriesExceeded history = true := by
  have noRoom := mt (allowsRetries_iff settings).mpr (Bool.eq_false_iff.mp exhausted)
  rw [retriesExceeded_iff]
  by_cases someLimit : settings.maxRetries = -1 ∨ 0 < settings.maxRetries
  · right
    have tooShort : ¬ ∀ limit ∈ settings.maxDuration, Duration.zero < limit :=
      fun positive => noRoom ⟨someLimit, positive⟩
    push Not at tooShort
    obtain ⟨limit, set, notPositive⟩ := tooShort
    refine ⟨limit, set, ?_⟩
    rw [Duration.lt_iff] at notPositive
    rw [Duration.le_iff] at nonnegative ⊢
    omega
  · left
    push Not at someLimit
    exact ⟨someLimit.1, by omega⟩

theorem retriesExceeded_of_allowed (allowed : settings.allowsRetries = true) {history : History}
    (first : history.attemptNumber = 1) (immediate : history.elapsed = .zero) :
    settings.retriesExceeded history = false := by
  obtain ⟨someRetries, positive⟩ := (allowsRetries_iff settings).mp allowed
  rw [← Bool.not_eq_true, retriesExceeded_iff, first, immediate]
  rintro (⟨limited, reached⟩ | ⟨limit, set, reached⟩)
  · rcases someRetries with unlimited | several
    · exact limited unlimited
    · omega
  · have above := positive limit set
    rw [Duration.lt_iff] at above
    rw [Duration.le_iff] at reached
    omega

theorem allowsRetries_iff_not_exceeded (bounded : -1 ≤ settings.maxRetries) {history : History}
    (first : history.attemptNumber = 1) (immediate : history.elapsed = .zero) :
    settings.allowsRetries = true ↔ settings.retriesExceeded history = false := by
  refine ⟨fun allowed => retriesExceeded_of_allowed allowed first immediate, fun within => ?_⟩
  by_contra notAllowed
  have attempted : 1 ≤ history.attemptNumber := first.ge
  have nonnegative : Duration.zero ≤ history.elapsed := by
    rw [immediate, Duration.le_iff]
  have exceeded :=
    retriesExceeded_of_not_allowed bounded (Bool.eq_false_iff.mpr notAllowed) attempted nonnegative
  rw [within] at exceeded
  cases exceeded

/-- A limit that is reached stays reached. -/
theorem retriesExceeded_mono {earlier later : History}
    (sooner : earlier.attemptNumber ≤ later.attemptNumber)
    (shorter : earlier.elapsed ≤ later.elapsed)
    (exceeded : settings.retriesExceeded earlier = true) :
    settings.retriesExceeded later = true := by
  rw [retriesExceeded_iff] at exceeded ⊢
  rcases exceeded with ⟨limited, reached⟩ | ⟨limit, set, reached⟩
  · exact Or.inl ⟨limited, reached.trans sooner⟩
  · refine Or.inr ⟨limit, set, ?_⟩
    rw [Duration.le_iff] at shorter reached ⊢
    exact reached.trans shorter

theorem retriesExceeded_of_maxAttempts (limited : settings.maxAttempts ≠ -1) {history : History}
    (reached : settings.maxAttempts ≤ history.attemptNumber) :
    settings.retriesExceeded history = true := by
  obtain ⟨bounded, total⟩ := maxAttempts_of_limited limited
  rw [retriesExceeded_iff]
  exact Or.inl ⟨bounded, total ▸ reached⟩

end Settings

/-! ## Runs within the limits -/

namespace RunSetup

variable {ρ κ : Type} [RandomSource ρ] [Clock κ] {setup : RunSetup} {started : Binary64}

/-- If a run goes on after a turn, then the turn counted one attempt and reached no limit. -/
theorem within_limits_of_slept {before : Progress ρ κ}
    (judgeable : asksAgain (setup.outcomeAfter before.attempts) = false)
    (goesOn : (setup.turn started before).ended = none) :
    (setup.turn started before).progress.attempts = before.attempts + 1 ∧
      (setup.turn started before).progress.history.attemptNumber =
        before.history.attemptNumber + 1 ∧
      .zero ≤ (setup.turn started before).progress.history.elapsed ∧
      setup.policy.retriesExceeded (setup.turn started before).progress.history = false := by
  obtain ⟨shown, -, turned⟩ := turn_turned started judgeable
  rw [goesOn] at turned
  generalize (setup.turn started before).progress = after at turned ⊢
  cases turned with
  | slept delay history _ judged summed counted =>
      obtain ⟨total, waited, -⟩ := recordDelay_eq_ok summed
      have notStopped := mt judged.stops_iff.mpr (by simp [Verdict.shouldRetry])
      rw [waited]
      refine ⟨counted, ?_, judged.elapsed_not_negative, ?_⟩
      · rw [judged.recorded]
        rfl
      · rw [← Bool.not_eq_true, Settings.retriesExceeded_iff]
        exact fun reached => notStopped (Or.inr (Or.inr reached))

theorem turn_attempts_le (setup : RunSetup) (started : Binary64) (before : Progress ρ κ) :
    ((setup.turn started before).actions.filterMap Action.attemptNumber?).length ≤ 1 := by
  rw [filterMap_turn (fun _ => rfl) (fun _ _ _ => rfl) (fun _ _ => rfl) (fun _ => rfl)]
  cases (setup.beforeAttempt before).1 <;> simp [attemptAction, Action.attemptNumber?]

omit [RandomSource ρ] in
theorem pause_sleepless {delay : Duration} {progress : Progress ρ κ}
    {result : Ending × Except Failure Value}
    (ended : (pause delay progress).ended = some result) :
    (pause delay progress).actions = [] := by
  unfold pause at ended ⊢
  split
  · rfl
  · rename_i summed
    simp [summed] at ended

omit [RandomSource ρ] in
theorem wait_sleepless {verdict : Verdict} {outcome : Except Failure Value}
    {progress : Progress ρ κ} {result : Ending × Except Failure Value}
    (ended : (wait verdict outcome progress).ended = some result) :
    (wait verdict outcome progress).actions = [] := by
  cases verdict with
  | retry delay => exact pause_sleepless ended
  | succeed => rfl
  | abort => rfl
  | retriesExceeded => rfl

/-- A turn that ends the run does not sleep. -/
theorem turn_sleepless {before : Progress ρ κ} {result : Ending × Except Failure Value}
    (judgeable : asksAgain (setup.outcomeAfter before.attempts) = false)
    (ended : (setup.turn started before).ended = some result) :
    (setup.turn started before).actions.filterMap Action.sleep? = [] := by
  have unannounced : (setup.beforeAttempt before).2.filterMap Action.sleep? = [] :=
    filterMap_beforeAttempt (fun _ _ _ => rfl) setup before
  have judged : (setup.judge started (setup.attempted before)
      (setup.outcomeAfter before.attempts)).2.2.filterMap Action.sleep? = [] :=
    filterMap_judge (fun _ => rfl) (fun _ _ _ => rfl) (fun _ _ => rfl) _ _ _ _
  rcases announcement : setup.beforeAttempt before with ⟨ready, announced⟩
  rw [announcement] at unannounced
  cases ready with
  | error raised =>
      rw [turn_unannounced announcement]
      exact unannounced
  | ok told =>
      rw [turn_announced announcement judgeable] at ended ⊢
      rcases judgement : setup.judge started (setup.attempted before)
        (setup.outcomeAfter before.attempts) with ⟨answer, reached, shown⟩
      rw [judgement] at judged ended
      cases answer with
      | error cause =>
          simp only [judgedTurn, List.filterMap_append, List.filterMap_cons, unannounced, judged,
            attemptAction, Action.sleep?, List.nil_append]
      | ok verdict =>
          simp only [judgedTurn, wait_sleepless ended, List.filterMap_append, List.filterMap_cons,
            unannounced, judged, attemptAction, Action.sleep?, List.filterMap_nil,
            List.nil_append]

/-- From an attempt on, a run makes at most as many attempts as are left. -/
theorem runFrom_attempts_le (judgeable : setup.NeverAsksAgain)
    (limited : setup.policy.maxRetries ≠ -1) (started : Binary64) (sleeps : Nat) :
    ∀ first : Progress ρ κ, first.history.attemptNumber = first.attempts →
      first.attempts ≤ setup.policy.maxRetries →
      first.attempts + ((setup.runFrom started sleeps first).attemptNumbers.length : Int) ≤
        setup.policy.maxRetries + 1 := by
  induction sleeps with
  | zero =>
      intro first _ within
      have atMostOne := setup.turn_attempts_le started first
      have shown : (setup.runFrom started 0 first).actions =
          (setup.turn started first).actions := by
        cases ended : (setup.turn started first).ended with
        | none => rw [runFrom_refused ended]
        | some result => rw [runFrom_ended ended]
      rw [Execution.attemptNumbers, shown]
      omega
  | succ sleeps ih =>
      intro first counted within
      have atMostOne := setup.turn_attempts_le started first
      cases ended : (setup.turn started first).ended with
      | some result =>
          rw [runFrom_ended ended]
          unfold Execution.attemptNumbers
          dsimp only
          omega
      | none =>
          obtain ⟨attempts, number, -, notExceeded⟩ :=
            within_limits_of_slept (judgeable first.attempts) ended
          rw [← Bool.not_eq_true, Settings.retriesExceeded_iff, not_or] at notExceeded
          have below : ¬ setup.policy.maxRetries + 1 ≤
              (setup.turn started first).progress.history.attemptNumber :=
            fun reached => notExceeded.1 ⟨limited, reached⟩
          have rest := ih (setup.turn started first).progress (by omega) (by omega)
          rw [runFrom_slept ended]
          simp only [Execution.attemptNumbers, Execution.after, List.filterMap_append,
            List.length_append] at rest ⊢
          omega

/-- Without room for a retry, the first turn ends the run. -/
theorem run_of_no_retries (judgeable : setup.NeverAsksAgain)
    (exhausted : setup.policy.allowsRetries = false)
    (bounded : -1 ≤ setup.policy.maxRetries) (clock : κ) (sleeps : Nat) (source : ρ) :
    (setup.run clock sleeps source).attemptNumbers = [1] ∧
      (setup.run clock sleeps source).sleeps = [] := by
  unfold run
  rcases Clock.read clock with ⟨started, clock⟩
  have ready : (setup.beforeAttempt ({ clock := clock, source := source } : Progress ρ κ)).1 =
      .ok () := rfl
  cases ended : (setup.turn started { clock := clock, source := source }).ended with
  | none =>
      obtain ⟨-, number, nonnegative, within⟩ := within_limits_of_slept (judgeable 0) ended
      have exceeded := Settings.retriesExceeded_of_not_allowed bounded exhausted number.ge
        nonnegative
      rw [within] at exceeded
      cases exceeded
  | some result =>
      dsimp only
      rw [runFrom_ended ended, Execution.attemptNumbers, Execution.sleeps]
      refine ⟨?_, turn_sleepless (judgeable 0) ended⟩
      rw [filterMap_turn (fun _ => rfl) (fun _ _ _ => rfl) (fun _ _ => rfl) (fun _ => rfl), ready]
      rfl

end RunSetup

namespace Policy

theorem retries_at_least (policy : Policy) : -1 ≤ policy.maxRetries :=
  ((Settings.problems_eq_nil_iff_consistent policy.toSettings).mp policy.sound).retries_at_least

/-- There is room for retries exactly if the limits are not reached by a first attempt that takes no
time. If there is none, then every attempt reaches them, and a run makes one attempt and does not
sleep, if that does not ask for another one. Limits that are reached stay reached. A limit on
attempts is reached by that many, and no run of an operation that never asks for more makes more. -/
theorem limits_agree (policy : Policy) {ρ κ : Type} [RandomSource ρ] [Clock κ] :
    (∀ history : History, history.attemptNumber = 1 → history.elapsed = .zero →
      (policy.allowsRetries = true ↔ policy.retriesExceeded history = false)) ∧
    (policy.allowsRetries = false →
      (∀ history : History, 1 ≤ history.attemptNumber → .zero ≤ history.elapsed →
        policy.retriesExceeded history = true) ∧
      ∀ (setup : RunSetup) (clock : κ) (sleeps : Nat) (source : ρ), setup.policy = policy →
        setup.NeverAsksAgain →
        (setup.run clock sleeps source).attemptNumbers = [1] ∧
          (setup.run clock sleeps source).sleeps = []) ∧
    (∀ earlier later : History, earlier.attemptNumber ≤ later.attemptNumber →
      earlier.elapsed ≤ later.elapsed → policy.retriesExceeded earlier = true →
      policy.retriesExceeded later = true) ∧
    (policy.maxAttempts ≠ -1 →
      (∀ history : History, policy.maxAttempts ≤ history.attemptNumber →
        policy.retriesExceeded history = true) ∧
      ∀ (setup : RunSetup) (clock : κ) (sleeps : Nat) (source : ρ), setup.policy = policy →
        setup.NeverAsksAgain →
        ((setup.run clock sleeps source).attemptNumbers.length : Int) ≤ policy.maxAttempts) := by
  have bounded := policy.retries_at_least
  refine ⟨?_, fun exhausted => ⟨?_, ?_⟩, ?_, fun limited => ⟨?_, ?_⟩⟩
  · exact fun history first immediate =>
      Settings.allowsRetries_iff_not_exceeded bounded first immediate
  · exact fun history attempted nonnegative =>
      Settings.retriesExceeded_of_not_allowed bounded exhausted attempted nonnegative
  · rintro setup clock sleeps source rfl judgeable
    exact RunSetup.run_of_no_retries judgeable exhausted bounded clock sleeps source
  · exact fun earlier later sooner shorter exceeded =>
      Settings.retriesExceeded_mono sooner shorter exceeded
  · exact fun history reached => Settings.retriesExceeded_of_maxAttempts limited reached
  · rintro setup clock sleeps source rfl judgeable
    obtain ⟨someLimit, total⟩ := Settings.maxAttempts_of_limited limited
    have least : 0 ≤ setup.policy.maxRetries := by omega
    have made := RunSetup.runFrom_attempts_le judgeable someLimit (Clock.read clock).1 sleeps
      { clock := (Clock.read clock).2, source := source } rfl least
    rw [total]
    unfold RunSetup.run
    dsimp only at made ⊢
    omega

/-- Five retries are allowed, but no time for them. -/
def hurriedPolicy : Policy :=
  ⟨{ maxRetries := 5, maxDuration := some .zero }, by decide +kernel⟩

/-- An operation that fails whenever it is called is called once. -/
theorem limits_agree_of_hurry :
    hurriedPolicy.allowsRetries = false ∧ hurriedPolicy.maxAttempts = 6 ∧
      ((RunSetup.failingAlways hurriedPolicy).run Binary64.zero 5
        RunSetup.noNumbers).attemptNumbers = [1] ∧
      ((RunSetup.failingAlways hurriedPolicy).run Binary64.zero 5 RunSetup.noNumbers).sleeps =
        [] := by
  have exhausted : hurriedPolicy.allowsRetries = false := by decide
  obtain ⟨-, noRoom, -, -⟩ := limits_agree hurriedPolicy (ρ := Shared Scripted) (κ := Binary64)
  have judgeable : (RunSetup.failingAlways hurriedPolicy).NeverAsksAgain := by
    intro attempts
    change RunSetup.asksAgain (.error (.valueError "again")) = false
    decide +kernel
  exact ⟨exhausted, rfl, (noRoom exhausted).2 _ _ _ _ rfl judgeable⟩

def onceOnlyPolicy : Policy := ⟨{ maxRetries := 0 }, by decide +kernel⟩

def misnamedCall : RunSetup :=
  { RunSetup.failingOnce onceOnlyPolicy with
    operation := fun _ _ => ⟨.zero, .ok (.int 1)⟩
    arguments := { keywords := [("fn", .int 1)] } }

/-- An operation that asks for another attempt gets it, although no retries are allowed. And a call
with a keyword that cannot be handed on makes no attempt. -/
theorem limits_passed_by_asking :
    onceOnlyPolicy.allowsRetries = false ∧ onceOnlyPolicy.maxAttempts = 1 ∧
      ((RunSetup.askingOnce onceOnlyPolicy).run Binary64.zero 5
        RunSetup.noNumbers).attemptNumbers = [1, 2] ∧
      ((RunSetup.askingOnce onceOnlyPolicy).run Binary64.zero 5 RunSetup.noNumbers).sleeps.length =
        1 ∧
      (misnamedCall.call (.direct []) false Binary64.zero 5 RunSetup.noNumbers).attemptNumbers =
        [] := by
  refine ⟨by decide, rfl, by decide +kernel, by decide +kernel, by decide +kernel⟩

end Policy
end Reattempt
