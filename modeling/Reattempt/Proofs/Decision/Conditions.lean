import Mathlib.Tactic
import Reattempt.Proofs.Builder.Acceptance
import Reattempt.Proofs.Decision.Evaluation
import Reattempt.Proofs.Decision.Totality

/-!
# Abort conditions in order

The conditions that a series of calls leaves are asked in the order of the calls, up to the first
that matches or that something gets out of (`AbortCondition.Scan`). As long as nothing gets out of
them, the answer depends on which conditions there are and not on their order.
-/

set_option autoImplicit false

namespace Reattempt

variable {result : Value} {failure : Option Failure}

namespace AbortRule

variable {rule : AbortRule}

def Matches (result : Value) (failure : Option Failure) : AbortRule → Prop
  | .failureTypes errorClasses =>
      ∃ raised, failure = some raised ∧
        ∃ errorClass ∈ errorClasses, raised.isInstance errorClass = true
  | .failureIf predicate =>
      ∃ raised, failure = some raised ∧ predicate.judge (.failure raised) = .ok true
  | .outcomeIf predicate => predicate.judge (.outcome result failure) = .ok true
  | .resultIf predicate => failure = none ∧ predicate.judge (.result result) = .ok true
  | .resultEquals expected objects =>
      failure = none ∧ result.equalBy objects expected = true

theorem judge_eq_ok_true_iff (rule : AbortRule) (result : Value) (failure : Option Failure) :
    rule.judge result failure = .ok true ↔ rule.Matches result failure := by
  cases rule <;> cases failure <;> simp [judge, asks, matchesPlainly, Matches]

end AbortRule

namespace AbortCondition

variable {condition : AbortCondition} {conditions : List AbortCondition}

/-! ## One condition after another -/

/-- The condition does not end the search: it does not match, and nothing gets out of it. -/
structure Passes (result : Value) (failure : Option Failure) (condition : AbortCondition) :
    Prop where
  unmatched : ¬ condition.rule.Matches result failure
  quiet : condition.Quiet result failure

def questions (result : Value) (failure : Option Failure) (conditions : List AbortCondition) :
    List Asked :=
  conditions.flatMap fun condition => (condition.rule.asks result failure).toList

/-- How a search through conditions ends, and what was asked: at a condition that matches, at one
that something gets out of, or behind the last one. All conditions before that pass, and none after
it is asked. -/
inductive Scan (result : Value) (failure : Option Failure) (conditions : List AbortCondition) :
    Except Failure Bool → List Asked → Prop
  | matched {earlier later : List AbortCondition} {condition : AbortCondition}
      (order : conditions = earlier ++ condition :: later)
      (passed : ∀ before ∈ earlier, before.Passes result failure)
      (found : condition.rule.Matches result failure) :
      Scan result failure conditions (.ok true)
        (questions result failure (earlier ++ [condition]))
  | raised {earlier later : List AbortCondition} {condition : AbortCondition} {raised : Raised}
      {gotOut : Failure}
      (order : conditions = earlier ++ condition :: later)
      (passed : ∀ before ∈ earlier, before.Passes result failure)
      (raises : condition.rule.judge result failure = .error raised)
      (escapes : condition.escaped raised = some gotOut) :
      Scan result failure conditions (.error gotOut)
        (questions result failure (earlier ++ [condition]))
  | exhausted (passed : ∀ condition ∈ conditions, condition.Passes result failure) :
      Scan result failure conditions (.ok false) (questions result failure conditions)

theorem forall_passes_cons (passes : condition.Passes result failure)
    (rest : ∀ before ∈ conditions, before.Passes result failure) :
    ∀ before ∈ condition :: conditions, before.Passes result failure :=
  List.forall_mem_cons.mpr ⟨passes, rest⟩

/-- A condition that passes is asked first, and then the search goes on. -/
theorem Scan.cons {answer : Except Failure Bool} {asked : List Asked}
    (scan : Scan result failure conditions answer asked)
    (passes : condition.Passes result failure) :
    Scan result failure (condition :: conditions) answer
      ((condition.rule.asks result failure).toList ++ asked) := by
  cases scan with
  | matched order passed found =>
      exact .matched (congrArg (condition :: ·) order) (forall_passes_cons passes passed) found
  | raised order passed raises escapes =>
      exact .raised (congrArg (condition :: ·) order) (forall_passes_cons passes passed) raises
        escapes
  | exhausted passed => exact .exhausted (forall_passes_cons passes passed)

theorem anyMatches_scan (conditions : List AbortCondition) :
    Scan result failure conditions (anyMatches result failure conditions).1
      (anyMatches result failure conditions).2 := by
  induction conditions with
  | nil => exact .exhausted fun _ none => absurd none List.not_mem_nil
  | cons condition rest ih =>
      have once : (condition.rule.asks result failure).toList =
          questions result failure ([] ++ [condition]) := (List.append_nil _).symm
      have none : ∀ before ∈ ([] : List AbortCondition), before.Passes result failure :=
        fun _ nothing => absurd nothing List.not_mem_nil
      have matched := AbortRule.judge_eq_ok_true_iff condition.rule result failure
      rw [anyMatches]
      -- the first condition ends the search or passes, and then `Scan.cons` puts it in front
      cases judged : condition.rule.judge result failure with
      | ok found =>
          cases found with
          | true =>
              rw [once]
              exact .matched rfl none (matched.mp judged)
          | false =>
              refine ih.cons ⟨fun hit => ?_, fun raised raises => ?_⟩
              · rw [matched.mpr hit] at judged
                cases judged
              · rw [judged] at raises
                cases raises
      | error raised =>
          dsimp only
          split
          · rename_i silent
            refine ih.cons ⟨fun hit => ?_, fun again raises => ?_⟩
            · rw [matched.mpr hit] at judged
              cases judged
            · rw [judged] at raises
              cases raises
              exact silent
          · rename_i gotOut escapes
            rw [once]
            exact .raised rfl none judged escapes

/-! ## Order and repetition -/

theorem anyMatches_matches {answer : Bool}
    (given : (anyMatches result failure conditions).1 = .ok answer) :
    answer = true ↔ ∃ condition ∈ conditions, condition.rule.Matches result failure := by
  simp only [anyMatches_eq_ok conditions answer given, AbortRule.judge_eq_ok_true_iff]

/-- Conditions that nothing gets out of give the same answer in any order, any number of times and
among others that pass, such as those that always raise an ordinary failure. -/
theorem anyMatches_eq_of_subset {others : List AbortCondition}
    (quiet : ∀ condition ∈ conditions, condition.Quiet result failure)
    (kept : conditions ⊆ others)
    (added : ∀ condition ∈ others, condition ∈ conditions ∨ condition.Passes result failure) :
    (anyMatches result failure others).1 = (anyMatches result failure conditions).1 := by
  have othersQuiet : ∀ condition ∈ others, condition.Quiet result failure := by
    intro condition member
    rcases added condition member with known | passes
    · exact quiet condition known
    · exact passes.quiet
  obtain ⟨answer, given⟩ := anyMatches_of_quiet conditions quiet
  obtain ⟨answer', given'⟩ := anyMatches_of_quiet others othersQuiet
  have same : answer' = true ↔ answer = true := by
    rw [anyMatches_matches given, anyMatches_matches given']
    constructor
    · rintro ⟨condition, member, found⟩
      rcases added condition member with known | passes
      · exact ⟨condition, known, found⟩
      · exact absurd found passes.unmatched
    · rintro ⟨condition, member, found⟩
      exact ⟨condition, kept member, found⟩
  rw [given, given', Bool.eq_iff_iff.mpr same]

/-- A condition that raises an ordinary failure hides no match behind it. -/
example : (anyMatches .null none
    [Policy.undecidedCondition, ⟨.own 2, .resultEquals .null⟩]).1 = .ok true := by
  decide +kernel

/-! ## What is asked about which outcomes -/

/-- Every predicate is asked about the outcome at hand: one for failures only if there is one, and
one for results only if there is none. -/
theorem asks_fits {rule : AbortRule} {asked : Asked}
    (asks : rule.asks result failure = some asked) :
    (∃ raised, rule = .failureIf asked.predicate ∧ failure = some raised ∧
      asked.subject = .failure raised) ∨
    rule = .outcomeIf asked.predicate ∧ asked.subject = .outcome result failure ∨
    rule = .resultIf asked.predicate ∧ failure = none ∧ asked.subject = .result result := by
  cases rule <;> cases failure <;> cases asks <;> simp

end AbortCondition

/-! ## Conditions of a series of calls -/

def Change.condition? (tag : Nat) : Change → Option AbortCondition
  | .abortOn failureTypes =>
      if failureTypes.isEmpty then none
      else (readErrorTypes failureTypes).toOption.map fun errorClasses =>
        ⟨.own tag, .failureTypes errorClasses⟩
  | .abortOnFailureIf predicate =>
      predicate.predicate?.map fun predicate => ⟨.own tag, .failureIf predicate⟩
  | .abortIf predicate => predicate.predicate?.map .ofPredicate
  | .abortIfResult predicate =>
      predicate.predicate?.map fun predicate => ⟨.own tag, .resultIf predicate⟩
  | .abortWhen result objects => some ⟨.own tag, .resultEquals result objects⟩
  | _ => none

namespace Settings

variable {settings changed : Settings}

open Change

theorem readPredicate_eq_ok {argument : Argument} {predicate : Predicate}
    (read : readPredicate argument = .ok predicate) : argument.predicate? = some predicate := by
  unfold readPredicate at read
  split at read
  · cases read
    assumption
  · cases read

theorem addCondition_of_predicate {argument : Argument} {toCondition : Predicate → AbortCondition}
    (accepted : (readPredicate argument).map (fun predicate =>
      settings.addCondition (toCondition predicate)) = .ok changed) :
    changed.abortConditions =
      settings.abortConditions ++ (argument.predicate?.map toCondition).toList := by
  obtain ⟨predicate, read, rfl⟩ := (map_eq_ok_iff _ _ _).mp accepted
  rw [readPredicate_eq_ok read]
  rfl

/-- A change adds its condition behind the others and leaves those as they are. -/
theorem change_abortConditions {tag : Nat} {change : Change}
    (accepted : settings.change tag change = .ok changed) :
    changed.abortConditions = settings.abortConditions ++ (change.condition? tag).toList := by
  have unchanged : settings.abortConditions = settings.abortConditions ++ [] :=
    (List.append_nil _).symm
  cases change with
  | delay =>
      obtain ⟨_, _, _, _, _, _, _, rfl⟩ := (withDelay_eq_ok_iff _ _ _).mp accepted
      exact unchanged
  | delayRange =>
      obtain ⟨_, _, _, _, _, _, _, _, _, _, _, rfl⟩ :=
        (withDelayRange_eq_ok_iff _ _ _ _).mp accepted
      exact unchanged
  | backoff =>
      obtain ⟨_, _, _, _, _, _, _, _, _, _, _, _, _, rfl⟩ :=
        (withBackoff_eq_ok_iff _ _ _ _ _).mp accepted
      exact unchanged
  | jitter =>
      obtain ⟨_, _, _, _, _, rfl⟩ := (withJitter_eq_ok_iff _ _ _).mp accepted
      exact unchanged
  | jitterFactor =>
      obtain ⟨_, _, _, _, rfl⟩ := (withJitterFactor_eq_ok_iff _ _ _).mp accepted
      exact unchanged
  | maxDuration =>
      obtain ⟨_, _, _, _, _, rfl⟩ := (withMaxDuration_eq_ok_iff _ _ _).mp accepted
      exact unchanged
  | maxRetries =>
      obtain ⟨_, _, _, rfl⟩ := (withMaxRetries_eq_ok_iff _ _ _).mp accepted
      exact unchanged
  | maxAttempts =>
      obtain ⟨_, _, _, _, rfl⟩ := (withMaxAttempts_eq_ok_iff _ _ _).mp accepted
      exact unchanged
  | abortOn failureTypes =>
      obtain ⟨given, errorClasses, read, rfl⟩ := (abortOn_eq_ok_iff _ _ _ _).mp accepted
      have nonempty : failureTypes.isEmpty = false := List.isEmpty_eq_false_iff.mpr given
      simp only [condition?, nonempty, read]
      rfl
  | abortOnFailureIf predicate => exact addCondition_of_predicate accepted
  | abortIf predicate => exact addCondition_of_predicate accepted
  | abortIfResult predicate => exact addCondition_of_predicate accepted
  | abortWhen result objects =>
      cases accepted
      rfl
  | handle occasion handler =>
      obtain ⟨_, _, rfl⟩ := (map_eq_ok_iff _ _ _).mp accepted
      exact unchanged

theorem predicate?_of_refused {argument : Argument} {toSettings : Predicate → Settings}
    {error : ChangeError} (refused : (readPredicate argument).map toSettings = .error error) :
    argument.predicate? = none := by
  unfold readPredicate at refused
  split at refused
  · cases refused
  · assumption

/-- A call that is refused has no condition to add. -/
theorem condition?_of_refused {tag : Nat} {change : Change} {error : ChangeError}
    (refused : settings.change tag change = .error error) : change.condition? tag = none := by
  cases change with
  | abortOn failureTypes =>
      cases empty : failureTypes.isEmpty with
      | true => exact if_pos empty
      | false =>
          cases read : readErrorTypes failureTypes with
          | error fault =>
              simp only [condition?, empty, read]
              rfl
          | ok errorClasses =>
              have accepted : settings.change tag (.abortOn failureTypes) =
                  .ok (settings.addRule tag (.failureTypes errorClasses)) :=
                (abortOn_eq_ok_iff _ _ _ _).mpr
                  ⟨List.isEmpty_eq_false_iff.mp empty, errorClasses, read, rfl⟩
              rw [accepted] at refused
              cases refused
  | abortOnFailureIf predicate => exact congrArg (Option.map _) (predicate?_of_refused refused)
  | abortIf predicate => exact congrArg (Option.map _) (predicate?_of_refused refused)
  | abortIfResult predicate => exact congrArg (Option.map _) (predicate?_of_refused refused)
  | abortWhen result objects => cases refused
  | _ => rfl

theorem changeOrKeep_abortConditions (settings : Settings) (tag : Nat) (change : Change) :
    (settings.changeOrKeep tag change).abortConditions =
      settings.abortConditions ++ (change.condition? tag).toList := by
  unfold changeOrKeep
  cases answer : settings.change tag change with
  | ok changed => exact change_abortConditions answer
  | error refused =>
      rw [condition?_of_refused answer]
      exact (List.append_nil _).symm

/-- The settings after a series of calls; those that are refused have no effect. -/
def afterCalls (settings : Settings) (calls : List (Nat × Change)) : Settings :=
  calls.foldl (fun settings call => settings.changeOrKeep call.1 call.2) settings

theorem afterCalls_abortConditions (calls : List (Nat × Change)) : ∀ settings : Settings,
    (settings.afterCalls calls).abortConditions =
      settings.abortConditions ++ calls.filterMap fun call => call.2.condition? call.1 := by
  induction calls with
  | nil => exact fun settings => (List.append_nil _).symm
  | cons call calls ih =>
      intro settings
      have step := changeOrKeep_abortConditions settings call.1 call.2
      calc (settings.afterCalls (call :: calls)).abortConditions
          = (settings.changeOrKeep call.1 call.2).abortConditions ++
              calls.filterMap fun call => call.2.condition? call.1 := ih _
        _ = settings.abortConditions ++ ((call.2.condition? call.1).toList ++
              calls.filterMap fun call => call.2.condition? call.1) := by
            rw [step, List.append_assoc]
        _ = settings.abortConditions ++
              (call :: calls).filterMap fun call => call.2.condition? call.1 := by
            rw [List.filterMap_cons]
            cases call.2.condition? call.1 <;> rfl

theorem afterCalls_consistent (calls : List (Nat × Change)) : ∀ settings : Settings,
    settings.Consistent → (settings.afterCalls calls).Consistent := by
  induction calls with
  | nil => exact fun settings consistent => consistent
  | cons call calls ih =>
      intro settings consistent
      exact ih _ (changeOrKeep_preserves_consistent call.1 call.2 consistent)

end Settings

namespace Policy

open AbortCondition

/-- The policy that a series of calls makes has the conditions of the accepted ones, in order. It
asks them about an outcome one after another, up to the first that matches or that something gets
out of, and if it answers, it answers whether one of them matches. Predicates on results are asked
only without a failure, predicates on failures only with one. If nothing gets out of the conditions,
order, repetition and further conditions that always raise ordinary failures make no difference. -/
theorem isAbortable_of_calls (calls : List (Nat × Change)) :
    ∃ policy : Policy, (({} : Settings).afterCalls calls).build = .ok policy ∧
      (Decimal.isWritable policy.maxRetries = true →
        (({} : Settings).afterCalls calls).buildAndNote = .ok (.ok policy)) ∧
      policy.abortConditions = calls.filterMap (fun call => call.2.condition? call.1) ∧
      ∀ (result : Value) (failure : Option Failure),
        Scan result failure policy.abortConditions (policy.isAbortable result failure).1
          (policy.isAbortable result failure).2 ∧
        (∀ answer, (policy.isAbortable result failure).1 = .ok answer →
          (answer = true ↔
            ∃ condition ∈ policy.abortConditions, condition.rule.Matches result failure)) ∧
        (∀ condition ∈ policy.abortConditions, ∀ asked ∈ condition.rule.asks result failure,
          (∃ raised, condition.rule = .failureIf asked.predicate ∧ failure = some raised ∧
            asked.subject = .failure raised) ∨
          condition.rule = .outcomeIf asked.predicate ∧
            asked.subject = .outcome result failure ∨
          condition.rule = .resultIf asked.predicate ∧ failure = none ∧
            asked.subject = .result result) ∧
        ((∀ condition ∈ policy.abortConditions, condition.Quiet result failure) →
          ∀ others, policy.abortConditions ⊆ others →
            (∀ condition ∈ others,
              condition ∈ policy.abortConditions ∨ condition.Passes result failure) →
            (anyMatches result failure others).1 = (policy.isAbortable result failure).1) := by
  have consistent := Settings.afterCalls_consistent calls {} Settings.standard_consistent
  obtain ⟨policy, same, built, -⟩ := consistent.build_eq_ok
  refine ⟨policy, built, ?_, ?_, fun result failure => ⟨anyMatches_scan _, ?_, ?_, ?_⟩⟩
  · intro writable
    rw [Settings.buildAndNote, built]
    exact if_pos writable
  · rw [same, Settings.afterCalls_abortConditions]
    rfl
  · exact fun answer given => anyMatches_matches given
  · exact fun condition _ asked asks => asks_fits asks
  · exact fun quiet others kept added => anyMatches_eq_of_subset quiet kept added

def unshowableCondition : AbortCondition :=
  .ofPredicate
    { identity := .own 1
      label := none
      judge := fun _ => .error ⟨.valueError "unseen", some (.typeError "not to be shown")⟩ }

/-- The first condition raises an ordinary failure, and the second one matches. Still there is no
answer, as the failure cannot be shown. -/
theorem isAbortable_stopped_by_unshowable_failure :
    ∃ policy : Policy,
      policy.abortConditions = [unshowableCondition, ⟨.own 2, .resultEquals .null⟩] ∧
      (Failure.valueError "unseen").isOrdinary = true ∧
      (policy.isAbortable .null none).1 = .error (.typeError "not to be shown") ∧
      AbortRule.Matches .null none (.resultEquals .null) :=
  ⟨⟨{ abortConditions := [unshowableCondition, ⟨.own 2, .resultEquals .null⟩] },
      by decide +kernel⟩,
    rfl, by decide, rfl, rfl, rfl⟩

end Policy
end Reattempt
