import Mathlib.Tactic
import Reattempt.Proofs.Decision.Draws
import Reattempt.Proofs.Delay.Mode
import Reattempt.Proofs.Duration.Overflow

/-!
# Evaluations of several executions

Several executions take turns in asking the same engine for verdicts. Each retry has a generator of
its own, the next one of the family, and takes the numbers of its delay from it; nothing else is
made or drawn. So a verdict depends on nothing but what was asked and those numbers, and executions
without random delays and jitter do not notice each other.
-/

set_option autoImplicit false

namespace Reattempt

structure Call where
  policy : Policy
  history : History
  outcome : Outcome

/-- An execution that asks for verdicts: what it asks next, by the answers it was given so far. -/
abbrev Caller := List (Except Failure Verdict) → Call

structure Consultation (ι ρ : Type) where
  caller : ι
  call : Call
  before : ρ
  after : ρ
  verdict : Except Failure Verdict

namespace Consultation

variable {ι ρ : Type}

def isRetry (consultation : Consultation ι ρ) : Bool :=
  match consultation.verdict with
  | .ok verdict => verdict.shouldRetry
  | .error _ => false

end Consultation

section Callers

variable {ι ρ : Type} [DecidableEq ι]

def answersTo (caller : ι) (consultations : List (Consultation ι ρ)) :
    List (Except Failure Verdict) :=
  (consultations.filter fun consultation => decide (consultation.caller = caller)).map
    Consultation.verdict

theorem answersTo_cons (caller : ι) (consultation : Consultation ι ρ)
    (rest : List (Consultation ι ρ)) :
    answersTo caller (consultation :: rest) =
      if consultation.caller = caller then consultation.verdict :: answersTo caller rest
      else answersTo caller rest := by
  unfold answersTo
  rw [List.filter_cons]
  by_cases own : consultation.caller = caller
  · rw [if_pos own, if_pos (decide_eq_true own), List.map_cons]
  · rw [if_neg own, if_neg (by simpa using own)]

variable [RandomSource ρ]

omit [DecidableEq ι] in
def Call.consult (call : Call) (power : Power) (caller : ι) (source : ρ) : Consultation ι ρ :=
  let decision := call.policy.evaluate power call.history call.outcome source
  ⟨caller, call, source, decision.source, decision.verdict⟩

/-- The evaluations that the executions ask for, in the order in which it is their turn. -/
def interleave (power : Power) (callers : ι → Caller) :
    List ι → (ι → List (Except Failure Verdict)) → ρ → List (Consultation ι ρ)
  | [], _, _ => []
  | caller :: schedule, given, source =>
      let consultation := (callers caller (given caller)).consult power caller source
      consultation ::
        interleave power callers schedule
          (Function.update given caller (given caller ++ [consultation.verdict]))
          consultation.after

end Callers

/-! ## Generators and retries -/

section Generators

variable {ι γ : Type} [Generator γ]

/-- What the generators have to do with an evaluation that comes after a number of retries. -/
structure Accounted (power : Power) (make : ℕ → γ) (retries : ℕ)
    (consultation : Consultation ι (PerEvaluation γ)) : Prop where
  family : consultation.before.make = make
  created : consultation.before.created = retries
  drawn : consultation.after =
    if consultation.isRetry then
      ⟨make, Generator.advanced consultation.call.policy.draws (make retries), retries + 1,
        consultation.before.drawn + consultation.call.policy.draws⟩
    else consultation.before
  independent : ∀ {σ : Type} [RandomSource σ] (other : σ) (caller : ι),
    (consultation.isRetry = true → ∀ index < consultation.call.policy.draws,
      RandomSource.number index (RandomSource.fresh other) =
        Generator.number index (make retries)) →
    (consultation.call.consult power caller other).verdict = consultation.verdict

theorem consult_accounted (call : Call) (power : Power) (caller : ι) (source : PerEvaluation γ)
    {verdict : Verdict} (reached : (call.consult power caller source).verdict = .ok verdict) :
    Accounted power source.make source.created (call.consult power caller source) := by
  have retry : (call.consult power caller source).isRetry = verdict.shouldRetry := by
    rw [Consultation.isRetry, reached]
  refine ⟨rfl, rfl, ?_, ?_⟩
  · rw [retry]
    refine (Policy.evaluate_source reached).trans ?_
    rw [PerEvaluation.advanced_eq, PerEvaluation.fresh_eq]
    rfl
  · intro σ _ other caller' same
    rw [reached]
    rw [retry] at same
    refine Policy.evaluate_eq_ok_congr reached ?_
    intro retried index below
    rw [same retried index below, PerEvaluation.number_eq, PerEvaluation.fresh_eq]

/-- How many generators there are after an evaluation. -/
theorem Accounted.created_after {power : Power} {make : ℕ → γ} {retries : ℕ}
    {consultation : Consultation ι (PerEvaluation γ)}
    (accounted : Accounted power make retries consultation) :
    consultation.after.created = retries + if consultation.isRetry then 1 else 0 := by
  rw [accounted.drawn]
  split
  · rfl
  · exact accounted.created

theorem Accounted.family_after {power : Power} {make : ℕ → γ} {retries : ℕ}
    {consultation : Consultation ι (PerEvaluation γ)}
    (accounted : Accounted power make retries consultation) :
    consultation.after.make = make := by
  rw [accounted.drawn]
  split
  · rfl
  · exact accounted.family

end Generators

section Interleaving

variable {ι ρ σ γ : Type} [DecidableEq ι] [RandomSource ρ] [RandomSource σ] [Generator γ]

omit [RandomSource ρ] [RandomSource σ] in
/-- Retries are counted on from the source that the first evaluation finds. -/
theorem interleave_accounted (power : Power) (callers : ι → Caller) (schedule : List ι) :
    ∀ (given : ι → List (Except Failure Verdict)) (source : PerEvaluation γ),
      (∀ consultation ∈ interleave power callers schedule given source,
        ∃ verdict, consultation.verdict = .ok verdict) →
      ∀ earlier consultation later,
        interleave power callers schedule given source = earlier ++ consultation :: later →
          Accounted power source.make (source.created + earlier.countP Consultation.isRetry)
            consultation := by
  induction schedule with
  | nil =>
      intro given source returning earlier consultation later split
      cases earlier <;> cases split
  | cons caller schedule ih =>
      intro given source returning earlier consultation later split
      rw [interleave] at returning split
      obtain ⟨verdict, reached⟩ := returning _ List.mem_cons_self
      have first := consult_accounted (callers caller (given caller)) power caller source reached
      cases earlier with
      | nil =>
          cases split
          exact first
      | cons head earlier =>
          obtain ⟨rfl, rest⟩ := List.cons.inj split
          have later := ih _ _ (fun c listed => returning c (List.mem_cons_of_mem _ listed)) _ _ _
            rest
          rw [first.family_after, first.created_after] at later
          rw [List.countP_cons, Nat.add_comm (List.countP _ earlier), ← Nat.add_assoc]
          exact later

/-! ## Executions that do not notice each other -/

/-- An execution that takes no numbers is given the same answers among others as alone. -/
theorem answersTo_interleave (power : Power) (callers : ι → Caller) (caller : ι)
    (undrawn : ∀ given, (callers caller given).policy.draws = 0) (schedule : List ι) :
    ∀ (given given' : ι → List (Except Failure Verdict)) (source : ρ) (alone : σ),
      given caller = given' caller →
      answersTo caller (interleave power callers schedule given source) =
        answersTo caller
          (interleave power callers (schedule.filter fun other => decide (other = caller)) given'
            alone) := by
  induction schedule with
  | nil =>
      intro given given' source alone same
      rfl
  | cons other schedule ih =>
      intro given given' source alone same
      rw [interleave, answersTo_cons, List.filter_cons]
      by_cases own : other = caller
      · subst own
        have verdicts : ((callers other (given other)).consult power other source).verdict =
            ((callers other (given' other)).consult power other alone).verdict := by
          rw [same]
          exact Policy.evaluate_verdict_of_undrawn (undrawn _) source alone
        rw [if_pos (by rfl), if_pos (decide_eq_true rfl), interleave, answersTo_cons,
          if_pos (by rfl), verdicts]
        congr 1
        apply ih
        rw [Function.update_self, Function.update_self, same]
      · rw [if_neg (by exact own), if_neg (by simpa using own)]
        apply ih
        rw [Function.update_of_ne (Ne.symm own), same]

/-- Every evaluation on an engine is accounted for by the retries before it: there are as many
generators as retries, the next retry draws from the next one alone, and nothing else has to do with
them. An execution that takes no numbers is given the same answers as if it were alone. -/
theorem interleave_independent (power : Power) (callers : ι → Caller) (make : ℕ → γ)
    (schedule : List ι)
    (returning : ∀ consultation ∈
      interleave power callers schedule (fun _ => []) (PerEvaluation.start make),
        ∃ verdict, consultation.verdict = .ok verdict) :
    (∀ earlier consultation later,
      interleave power callers schedule (fun _ => []) (PerEvaluation.start make) =
          earlier ++ consultation :: later →
        Accounted power make (earlier.countP Consultation.isRetry) consultation ∧
          consultation.after.created =
            (earlier ++ [consultation]).countP Consultation.isRetry) ∧
    ∀ caller, (∀ given, (callers caller given).policy.draws = 0) →
      ∀ {σ : Type} [RandomSource σ] (alone : σ),
        answersTo caller
            (interleave power callers schedule (fun _ => []) (PerEvaluation.start make)) =
          answersTo caller
            (interleave power callers (schedule.filter fun other => decide (other = caller))
              (fun _ => []) alone) := by
  constructor
  · intro earlier consultation later split
    have accounted := interleave_accounted power callers schedule _ _ returning earlier
      consultation later split
    have none : (PerEvaluation.start make).created = 0 := rfl
    rw [none, Nat.zero_add] at accounted
    refine ⟨accounted, ?_⟩
    rw [accounted.created_after, List.countP_append, List.countP_singleton]
  · intro caller undrawn σ _ alone
    exact answersTo_interleave power callers caller undrawn schedule _ _ _ _ rfl

end Interleaving

/-! ## Two executions -/

def scatteredPolicy : Policy :=
  ⟨{ delayMin := some ⟨1000000, Duration.oneSecond_inRange⟩,
     delayMax := some ⟨2000000, Duration.twoSeconds_inRange⟩,
     jitterFactor := some (Binary64.ofRatio 1 2) }, by decide +kernel⟩

def steadyPolicy : Policy :=
  ⟨{ delay := ⟨1000000, Duration.oneSecond_inRange⟩ }, by decide +kernel⟩

def twoCallers : Bool → Caller
  | scattered, given =>
      { policy := if scattered then scatteredPolicy else steadyPolicy
        history := { attemptNumber := given.length + 1 }
        outcome := .failed (some (.valueError "again")) .null }

def quarters (index : ℕ) : Scripted := { numbers := #[Binary64.ofRatio (index % 4) 4] }

/-- The two take turns. The third evaluation comes after two retries, and the execution with steady
delays is given the same answers as alone. -/
theorem interleave_independent_of_two :
    let consultations :=
      interleave Power.first twoCallers [true, false, true, false] (fun _ => [])
        (PerEvaluation.start quarters)
    (∀ consultation ∈ consultations, ∃ verdict, consultation.verdict = .ok verdict) ∧
    (∀ given, (twoCallers false given).policy.draws = 0) ∧
    (∃ earlier consultation later, consultations = earlier ++ consultation :: later ∧
      earlier.countP Consultation.isRetry = 2 ∧
      Accounted Power.first quarters 2 consultation) ∧
    answersTo false consultations = [.ok (.retry ⟨1000000, by decide⟩),
      .ok (.retry ⟨1000000, by decide⟩)] ∧
    answersTo false consultations =
      answersTo false
        (interleave Power.first twoCallers
          ([true, false, true, false].filter fun other => decide (other = false)) (fun _ => [])
          (PerEvaluation.start quarters)) := by
  intro consultations
  have returning : ∀ consultation ∈ consultations,
      ∃ verdict, consultation.verdict = .ok verdict := by
    have all : consultations.all (fun consultation => consultation.verdict.isOk) = true := by
      decide +kernel
    intro consultation listed
    have returned := List.all_eq_true.mp all consultation listed
    cases answer : consultation.verdict with
    | error raised => rw [answer] at returned; cases returned
    | ok verdict => exact ⟨verdict, rfl⟩
  have undrawn : ∀ given, (twoCallers false given).policy.draws = 0 := by
    intro given
    rfl
  obtain ⟨accounted, alone⟩ :=
    interleave_independent Power.first twoCallers quarters [true, false, true, false] returning
  have number : consultations.length = 4 := by decide +kernel
  have split : consultations =
      consultations.take 2 ++ consultations[2] :: consultations.drop 3 := by
    rw [← List.drop_eq_getElem_cons, List.take_append_drop]
  have retries : (consultations.take 2).countP Consultation.isRetry = 2 := by decide +kernel
  have third := (accounted _ _ _ split).1
  rw [retries] at third
  refine ⟨returning, undrawn, ⟨_, _, _, split, retries, third⟩, by decide +kernel, ?_⟩
  exact alone false undrawn (PerEvaluation.start quarters)

end Reattempt
