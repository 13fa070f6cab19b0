import Mathlib.Tactic
import Reattempt.Proofs.Preview.Agreement
import Reattempt.Proofs.Settings.Consistency

/-!
# The course of a preview

A preview goes through the verdicts on one simulated failure after another. Each of them is the
decision on a history that is known from the verdicts before it (`Tells`), with the numbers that
those left over. A preview of fewer failures is the first part of one of more
(`simulate_verdicts`).
-/

set_option autoImplicit false

namespace Reattempt

namespace Preview

variable {ρ : Type} [RandomSource ρ] {policy : Policy} {power : Power} {attemptTime : Duration}
variable {source drawn : ρ} {earlier verdicts : List Verdict} {verdict : Verdict}
variable {history : History} {elapsed now : Duration}

def waited (verdicts : List Verdict) : Int :=
  (verdicts.map fun verdict => verdict.delay.microseconds).sum

@[simp] theorem waited_nil : waited [] = 0 := rfl

@[simp] theorem waited_append (first second : List Verdict) :
    waited (first ++ second) = waited first + waited second := by
  simp [waited]

@[simp] theorem waited_cons (verdict : Verdict) (rest : List Verdict) :
    waited (verdict :: rest) = verdict.delay.microseconds + waited rest := by
  simp [waited]

/-- What a history tells that is evaluated after these verdicts: one more attempt was made, and each
attempt took its time. -/
structure Tells (attemptTime : Duration) (earlier : List Verdict) (history : History) : Prop where
  attemptNumber : history.attemptNumber = earlier.length + 1
  elapsed : history.elapsed.microseconds =
    (earlier.length + 1) * attemptTime.microseconds + waited earlier
  lastResult : history.lastResult = .null
  lastFailure : history.lastFailure = some simulatedFailure
  totalDelay : history.totalDelay.microseconds = waited earlier

/-- These verdicts are the decisions on simulated failures, one after the other, and they leave this
source behind. -/
inductive Course (policy : Policy) (power : Power) (attemptTime : Duration) (source : ρ) :
    List Verdict → ρ → Prop
  | start : Course policy power attemptTime source [] source
  | next {earlier : List Verdict} {verdict : Verdict} {history : History} {drawn : ρ}
      (course : Course policy power attemptTime source earlier drawn)
      (tells : Tells attemptTime earlier history)
      (decided : (policy.evaluate power history simulatedOutcome drawn).verdict = .ok verdict) :
      Course policy power attemptTime source (earlier ++ [verdict])
        (policy.evaluate power history simulatedOutcome drawn).source

/-! ## Places in a course -/

/-- Each verdict of a course is the decision at its place. -/
theorem Course.decided_at {later : List Verdict}
    (course : Course policy power attemptTime source verdicts drawn)
    (place : verdicts = earlier ++ verdict :: later) :
    ∃ history left, Course policy power attemptTime source earlier left ∧
      Tells attemptTime earlier history ∧
      (policy.evaluate power history simulatedOutcome left).verdict = .ok verdict := by
  induction course generalizing later with
  | start => simp at place
  | @next front last history left course tells decided ih =>
      rcases List.eq_nil_or_concat later with rfl | ⟨between, final, rfl⟩
      · obtain ⟨rfl, same⟩ := List.append_inj' place rfl
        cases same
        exact ⟨history, left, course, tells, decided⟩
      · have split : front = earlier ++ verdict :: between := by
          have shifted : front ++ [last] = (earlier ++ verdict :: between) ++ [final] := by
            simpa using place
          exact (List.append_inj' shifted rfl).1
        exact ih split

/-- What led to the last verdict of a course, and what that left behind. -/
theorem Course.last
    (course : Course policy power attemptTime source (earlier ++ [verdict]) drawn) :
    ∃ history left, Course policy power attemptTime source earlier left ∧
      Tells attemptTime earlier history ∧
      (policy.evaluate power history simulatedOutcome left).verdict = .ok verdict ∧
      (policy.evaluate power history simulatedOutcome left).source = drawn := by
  generalize place : earlier ++ [verdict] = verdicts at course
  cases course with
  | start => simp at place
  | next course tells decided =>
      obtain ⟨rfl, same⟩ := List.append_inj' place rfl
      cases same
      exact ⟨_, _, course, tells, decided, rfl⟩

theorem Tells.unique {other : History} (tells : Tells attemptTime earlier history)
    (tellsToo : Tells attemptTime earlier other) : history = other := by
  have sameElapsed : history.elapsed = other.elapsed :=
    (Duration.eq_iff _ _).mpr (tells.elapsed.trans tellsToo.elapsed.symm)
  have sameDelay : history.totalDelay = other.totalDelay :=
    (Duration.eq_iff _ _).mpr (tells.totalDelay.trans tellsToo.totalDelay.symm)
  cases history
  cases other
  simp only [History.mk.injEq]
  exact ⟨tells.attemptNumber.trans tellsToo.attemptNumber.symm, sameElapsed,
    tells.lastResult.trans tellsToo.lastResult.symm,
    tells.lastFailure.trans tellsToo.lastFailure.symm, sameDelay⟩

/-- The verdicts determine what they leave behind. -/
theorem Course.unique {left : ρ} (course : Course policy power attemptTime source verdicts drawn)
    (courseToo : Course policy power attemptTime source verdicts left) : drawn = left := by
  induction course generalizing left with
  | start =>
      generalize nothing : ([] : List Verdict) = verdicts at courseToo
      cases courseToo with
      | start => rfl
      | next course tells decided => simp at nothing
  | next course tells decided ih =>
      obtain ⟨history, before, courseBefore, tellsToo, -, rfl⟩ := courseToo.last
      rw [ih courseBefore, tells.unique tellsToo]

/-- A simulated failure never counts as a success. -/
theorem Course.succeed_not_mem (course : Course policy power attemptTime source verdicts drawn) :
    Verdict.succeed ∉ verdicts := by
  intro member
  obtain ⟨before, after, place⟩ := List.append_of_mem member
  obtain ⟨history, left, -, -, decided⟩ := course.decided_at place
  obtain ⟨isAbortable, -, fits, -⟩ := Policy.evaluate_eq_ok decided
  have failed : false = true := fits.2.symm
  cases failed

/-- If nothing but the limit on retries ends a preview, then a verdict is a retry exactly as long as
the limit allows for one more. -/
theorem Course.retry_iff {later : List Verdict} {retries : Nat}
    (course : Course policy power attemptTime source verdicts drawn)
    (place : verdicts = earlier ++ verdict :: later)
    (limited : policy.maxRetries = retries) (unhurried : policy.maxDuration = none)
    (unmatched : ∀ condition ∈ policy.abortConditions,
      condition.rule.judge .null (some simulatedFailure) ≠ .ok true) :
    verdict.shouldRetry = true ↔ earlier.length < retries := by
  obtain ⟨history, left, -, tells, decided⟩ := course.decided_at place
  obtain ⟨isAbortable, asked, fits, -⟩ := Policy.evaluate_eq_ok decided
  have noAbort : isAbortable ≠ true := by
    intro aborts
    obtain ⟨condition, listed, matched⟩ :=
      (AbortCondition.anyMatches_eq_ok policy.abortConditions isAbortable asked).mp aborts
    exact unmatched condition listed matched
  have exceeded : policy.retriesExceeded history = true ↔ retries ≤ earlier.length := by
    rw [Settings.retriesExceeded_iff, limited, unhurried, tells.attemptNumber]
    simp only [Option.mem_def, reduceCtorEq, false_and, exists_false, or_false]
    omega
  cases verdict with
  | succeed => exact absurd fits.2 (by decide)
  | abort => exact absurd fits noAbort
  | retriesExceeded =>
      have spent := exceeded.mp fits.2.2
      simp only [Verdict.shouldRetry, Bool.false_eq_true, false_iff]
      omega
  | retry delay =>
      have unspent : ¬ retries ≤ earlier.length := by
        rw [← exceeded, fits.2.2]
        decide
      simp only [Verdict.shouldRetry, true_iff]
      omega

/-! ## Stands of a preview -/

structure StandsAfter (policy : Policy) (power : Power) (attemptTime : Duration) (source : ρ)
    (earlier : List Verdict) (history : History) (elapsed : Duration) (drawn : ρ) : Prop where
  course : Course policy power attemptTime source earlier drawn
  attemptNumber : history.attemptNumber = earlier.length
  elapsed : elapsed.microseconds = earlier.length * attemptTime.microseconds + waited earlier
  totalDelay : history.totalDelay.microseconds = waited earlier

theorem standsAfter_nil (policy : Policy) (power : Power) (attemptTime : Duration) (source : ρ) :
    StandsAfter policy power attemptTime source [] {} .zero source :=
  ⟨.start, rfl, by simp [Duration.zero], rfl⟩

theorem StandsAfter.tells
    (stands : StandsAfter policy power attemptTime source earlier history elapsed drawn)
    (passed : elapsed.add attemptTime = .ok now) :
    Tells attemptTime earlier (history.record simulatedOutcome now) := by
  have counted := stands.attemptNumber
  have measured := stands.elapsed
  refine ⟨?_, ?_, rfl, rfl, stands.totalDelay⟩
  · change history.attemptNumber + 1 = _
    rw [counted]
  · change now.microseconds = _
    rw [Duration.add_eq_ok passed, measured]
    ring

theorem StandsAfter.decided
    (stands : StandsAfter policy power attemptTime source earlier history elapsed drawn)
    (passed : elapsed.add attemptTime = .ok now)
    (reached : (decision policy power history now drawn).verdict = .ok verdict) :
    Course policy power attemptTime source (earlier ++ [verdict])
      (decision policy power history now drawn).source :=
  .next stands.course (stands.tells passed) reached

theorem StandsAfter.next {delay later : Duration} {waiting : History}
    (stands : StandsAfter policy power attemptTime source earlier history elapsed drawn)
    (passed : elapsed.add attemptTime = .ok now)
    (reached : (decision policy power history now drawn).verdict = .ok (.retry delay))
    (summed : (history.record simulatedOutcome now).recordDelay delay = .ok waiting)
    (slept : now.add delay = .ok later) :
    StandsAfter policy power attemptTime source (earlier ++ [.retry delay]) waiting later
      (decision policy power history now drawn).source := by
  have tells := stands.tells passed
  obtain ⟨total, rfl, sum⟩ := RunSetup.recordDelay_eq_ok summed
  have measured : now.microseconds =
      (earlier.length + 1) * attemptTime.microseconds + waited earlier := tells.elapsed
  refine ⟨stands.decided passed reached, ?_, ?_, ?_⟩
  · rw [List.length_append, List.length_singleton]
    exact_mod_cast tells.attemptNumber
  · rw [Duration.add_eq_ok slept, measured]
    simp only [List.length_append, List.length_singleton, waited_append, waited_cons, waited_nil,
      Verdict.delay]
    push_cast
    ring
  · rw [sum, tells.totalDelay]
    simp [Verdict.delay]

/-! ## Previews from a stand -/

/-- A preview from a stand on goes on with the course that led there. It consists of retries, and it
is shorter than asked for only if it ends with another verdict. -/
theorem simulateFrom_course (failures : Nat) :
    ∀ (earlier : List Verdict) (history : History) (elapsed : Duration) (drawn : ρ)
      (verdicts : List Verdict),
      StandsAfter policy power attemptTime source earlier history elapsed drawn →
      (simulateFrom policy power (.ok attemptTime) failures history elapsed drawn).verdicts =
        .ok verdicts →
      (∃ left, Course policy power attemptTime source (earlier ++ verdicts) left) ∧
        verdicts.length ≤ failures ∧
        (∀ verdict ∈ verdicts.dropLast, verdict.shouldRetry = true) ∧
        (verdicts.length < failures →
          ∃ last ∈ verdicts.getLast?, last.shouldRetry = false) := by
  induction failures with
  | zero =>
      intro earlier history elapsed drawn verdicts stands previewed
      cases Except.ok.inj previewed
      refine ⟨⟨drawn, ?_⟩, le_rfl, by simp, by simp⟩
      rw [List.append_nil]
      exact stands.course
  | succ failures ih =>
      intro earlier history elapsed drawn verdicts stands previewed
      obtain ⟨now, verdict, passed, reached, rest⟩ := simulateFrom_succ_eq_ok previewed
      rcases rest with ⟨final, rfl⟩ | ⟨delay, waiting, later, others, rfl, summed, slept,
        foretold, rfl⟩
      · exact ⟨⟨_, stands.decided passed reached⟩, by simp, by simp, fun _ => ⟨verdict, rfl, final⟩⟩
      · obtain ⟨⟨left, course⟩, few, retries, ending⟩ :=
          ih _ _ _ _ others (stands.next passed reached summed slept) foretold
        rw [List.append_assoc, List.singleton_append] at course
        refine ⟨⟨left, course⟩, Nat.succ_le_succ few, ?_, ?_⟩
        · intro verdict member
          cases others with
          | nil => simp at member
          | cons second others =>
              rw [List.dropLast_cons_cons, List.mem_cons] at member
              rcases member with rfl | member
              · rfl
              · exact retries verdict member
        · intro short
          obtain ⟨last, member, final⟩ := ending (Nat.lt_of_succ_lt_succ short)
          refine ⟨last, ?_, final⟩
          rw [Option.mem_def] at member ⊢
          rw [List.getLast?_cons, member, Option.getD_some]

theorem simulateFrom_final {failures : Nat} (passed : elapsed.add attemptTime = .ok now)
    (reached : (decision policy power history now source).verdict = .ok verdict)
    (final : verdict.shouldRetry = false) :
    (simulateFrom policy power (.ok attemptTime) (failures + 1) history elapsed source).verdicts =
      .ok [verdict] := by
  simp [simulateFrom_succ passed, reached, Verdict.isComplete, final]

theorem simulateFrom_retry {failures : Nat} {delay later : Duration} {waiting : History}
    (passed : elapsed.add attemptTime = .ok now)
    (reached : (decision policy power history now source).verdict = .ok (.retry delay))
    (summed : (history.record simulatedOutcome now).recordDelay delay = .ok waiting)
    (slept : now.add delay = .ok later) :
    (simulateFrom policy power (.ok attemptTime) (failures + 1) history elapsed source).verdicts =
      (simulateFrom policy power (.ok attemptTime) failures waiting later
        (decision policy power history now source).source).verdicts.map (.retry delay :: ·) := by
  simp [simulateFrom_succ passed, reached, Verdict.isComplete, Verdict.shouldRetry, Verdict.delay,
    summed, slept]

/-- The first verdicts do not depend on how many more failures are previewed. -/
theorem simulateFrom_take (more : Nat) :
    ∀ (fewer : Nat) (history : History) (elapsed : Duration) (source : ρ)
      (verdicts : List Verdict), fewer ≤ more →
      (simulateFrom policy power (.ok attemptTime) more history elapsed source).verdicts =
        .ok verdicts →
      (simulateFrom policy power (.ok attemptTime) fewer history elapsed source).verdicts =
        .ok (verdicts.take fewer) := by
  induction more with
  | zero =>
      intro fewer history elapsed source verdicts ordered previewed
      cases Nat.le_zero.mp ordered
      cases Except.ok.inj previewed
      rfl
  | succ more ih =>
      intro fewer history elapsed source verdicts ordered previewed
      cases fewer with
      | zero => rfl
      | succ fewer =>
          obtain ⟨now, verdict, passed, reached, rest⟩ := simulateFrom_succ_eq_ok previewed
          rcases rest with ⟨final, rfl⟩ | ⟨delay, waiting, later, others, rfl, summed, slept,
            foretold, rfl⟩
          · rw [simulateFrom_final passed reached final, List.take_succ_cons, List.take_nil]
          · have fewerLater := Nat.le_of_succ_le_succ ordered
            have shorter := ih fewer waiting later _ others fewerLater foretold
            rw [simulateFrom_retry passed reached summed slept, shorter, List.take_succ_cons]
            rfl

/-- A preview of fewer failures is the first part of one of more. Its verdicts are retries but for
the last, which is a retry only if as many failures were previewed as asked for; none is a success;
and each is the decision at its place. A limit on retries alone determines how many there are. -/
theorem simulate_verdicts (policy : Policy) (power : Power)
    (attemptTime : Except Duration.RangeError Duration) (source : ρ) (fewer more : Nat)
    (verdicts : List Verdict) (ordered : fewer ≤ more)
    (previewed : (simulate policy power more attemptTime source).verdicts = .ok verdicts) :
    (simulate policy power fewer attemptTime source).verdicts = .ok (verdicts.take fewer) ∧
    verdicts.length ≤ more ∧
    (∀ verdict ∈ verdicts.dropLast, verdict.shouldRetry = true) ∧
    (verdicts.length < more → ∃ last ∈ verdicts.getLast?, last.shouldRetry = false) ∧
    .succeed ∉ verdicts ∧
    (more = 0 ∨ ∃ time drawn, attemptTime = .ok time ∧
      Course policy power time source verdicts drawn) ∧
    ∀ retries : Nat, policy.maxRetries = retries → policy.maxDuration = none →
      (∀ condition ∈ policy.abortConditions,
        condition.rule.judge .null (some simulatedFailure) ≠ .ok true) →
      verdicts.length = min more (retries + 1) := by
  cases attemptTime with
  | error error =>
      -- without a time for its attempts a preview is empty or overflows at once
      cases more with
      | succ more => cases previewed
      | zero =>
          cases Nat.le_zero.mp ordered
          cases Except.ok.inj previewed
          exact ⟨rfl, le_rfl, by simp, by simp, by simp, Or.inl rfl, by simp⟩
  | ok time =>
      obtain ⟨⟨drawn, course⟩, few, retried, ending⟩ := simulateFrom_course more [] {} .zero source
        verdicts (standsAfter_nil policy power time source) previewed
      rw [List.nil_append] at course
      refine ⟨simulateFrom_take more fewer _ _ _ _ ordered previewed, few, retried, ending,
        course.succeed_not_mem, Or.inr ⟨time, drawn, rfl, course⟩, ?_⟩
      intro retries limited unhurried unmatched
      have retry {earlier later : List Verdict} {verdict : Verdict}
          (place : verdicts = earlier ++ verdict :: later) :
          verdict.shouldRetry = true ↔ earlier.length < retries :=
        course.retry_iff place limited unhurried unmatched
      have atMost : verdicts.length ≤ retries + 1 := by
        rcases List.eq_nil_or_concat verdicts with rfl | ⟨front, last, rfl⟩
        · simp
        · rcases List.eq_nil_or_concat front with rfl | ⟨start, second, rfl⟩
          · simp
          · have goesOn : second.shouldRetry = true := retried second (by simp)
            have below := (retry (by simp; rfl)).mp goesOn
            simp
            omega
      have atLeast (short : verdicts.length < more) : retries + 1 ≤ verdicts.length := by
        obtain ⟨last, member, final⟩ := ending short
        obtain ⟨front, rfl⟩ := List.getLast?_eq_some_iff.mp member
        have above : ¬ front.length < retries := by
          rw [← retry rfl, final]
          decide
        simp
        omega
      omega

def wanderingPolicy : Policy :=
  ⟨{ delayMin := some RunSetup.oneSecond, delayMax := some ⟨3000000, by decide⟩ },
    by decide +kernel⟩

def quarterSteps : Shared Scripted :=
  ⟨{ numbers := #[Binary64.ofRatio 1 4, Binary64.ofRatio 1 2, Binary64.ofRatio 3 4] }⟩

/-- Two retries after different delays, whether two failures are previewed or five. -/
theorem simulate_verdicts_of_random_delays :
    let preview := fun failures => (simulate wanderingPolicy (fun base _ => base) failures
      (.ok RunSetup.oneSecond) quarterSteps).verdicts
    let retries : List Verdict := [.retry ⟨1500000, by decide⟩, .retry RunSetup.twoSeconds]
    preview 5 = .ok (retries ++ [.retriesExceeded]) ∧ preview 2 = .ok retries ∧
      (retries ++ [Verdict.retriesExceeded]).length = min 5 (2 + 1) := by
  intro preview retries
  have previewed : preview 5 = .ok (retries ++ [.retriesExceeded]) := by
    decide +kernel
  obtain ⟨shorter, -, -, -, -, -, counted⟩ := simulate_verdicts wanderingPolicy
    (fun base _ => base) (.ok RunSetup.oneSecond) quarterSteps 2 5 _ (by decide) previewed
  exact ⟨previewed, shorter, counted 2 rfl rfl (by simp [wanderingPolicy])⟩

end Preview
end Reattempt
