import Mathlib.Tactic
import Reattempt.Policy.Arguments
import Reattempt.Proofs.Field.Validation
import Reattempt.Proofs.Settings.Consistency

/-!
# Construction from named arguments

Reading the arguments one after the other gives the settings and a list of problems. Here this is
said of the whole reading (`settingsOf_yields`), and settings that are written out as arguments are
read back as they are, with exactly their own problems (`ofArguments_toArguments`).
-/

set_option autoImplicit false

namespace Reattempt

namespace Policy

open Validation

variable {α : Type} {arguments : NamedArguments}

theorem field_yields_absent (name : String) (standard : α)
    (read : Argument → Except Field.Rejection α) (absent : arguments.get? name = none) :
    Yields (field arguments name standard read) standard [] := by
  simp only [field, absent]
  exact yields_pure standard

theorem field_yields_read {name : String} {argument : Argument} (standard value : α)
    (read : Argument → Except Field.Rejection α) (given : arguments.get? name = some argument)
    (taken : read argument = .ok value) :
    Yields (field arguments name standard read) value [] := by
  simp only [field, given, taken]
  exact yields_settle_ok _ standard value

theorem field_yields_fault {name : String} {argument : Argument} {fault : Fault} (standard : α)
    (read : Argument → Except Field.Rejection α) (given : arguments.get? name = some argument)
    (refused : read argument = .error (.fault fault)) :
    Yields (field arguments name standard read) standard [⟨[.field name], fault⟩] := by
  simp only [field, given, refused]
  exact yields_settle_fault _ standard fault

/-- A setting with a bound: what is out of bounds leaves one problem. -/
theorem field_yields_bounded (name : String) {argument : Argument} (standard value : α)
    (read : Argument → Except Field.Rejection α) (fault? : Option Fault)
    (given : arguments.get? name = some argument)
    (answer : read argument = fault?.elim (.ok value) fun fault => .error (.fault fault)) :
    ∃ taken, Yields (field arguments name standard read) taken
        (fault?.map fun fault => ⟨[.field name], fault⟩).toList ∧
      (fault? = none → taken = value) := by
  cases fault? with
  | none => exact ⟨value, field_yields_read standard value read given answer, fun _ => rfl⟩
  | some fault =>
      exact ⟨standard, field_yields_fault standard read given answer, fun absent => by cases absent⟩

theorem readConditions_yields (conditions : List AbortCondition) : ∀ position : Nat,
    Yields (readConditions position (conditions.map Argument.condition)) conditions [] := by
  induction conditions with
  | nil => exact fun position => yields_pure []
  | cons condition rest ih =>
      intro position
      exact yields_bind (yields_settle_ok _ noCondition condition)
        (yields_bind (ih (position + 1)) (yields_pure _))

/-- The whole reading, from what each setting gives. -/
theorem settingsOf_yields (settings : Settings)
    {delayFactorProblems jitterFactorProblems maxRetriesProblems : List Problem}
    (delay : Yields (field arguments "delay" Duration.zero readDuration) settings.delay [])
    (delayMin : Yields (field arguments "delay_min" none (readOptional readDuration))
      settings.delayMin [])
    (delayMax : Yields (field arguments "delay_max" none (readOptional readDuration))
      settings.delayMax [])
    (maxDelay : Yields (field arguments "max_delay" none (readOptional readDuration))
      settings.maxDelay [])
    (delayFactor : Yields (field arguments "delay_factor" (Binary64.ofInt 2)
      (readNumber Settings.delayFactorFault?)) settings.delayFactor delayFactorProblems)
    (jitter : Yields (field arguments "jitter" none (readOptional readDuration))
      settings.jitter [])
    (jitterFactor : Yields (field arguments "jitter_factor" none
      (readOptional (readNumber Settings.jitterFactorFault?))) settings.jitterFactor
      jitterFactorProblems)
    (maxDuration : Yields (field arguments "max_duration" none (readOptional readDuration))
      settings.maxDuration [])
    (maxRetries : Yields (field arguments "max_retries" (2 : Int)
      (readInteger Settings.retriesFault?)) settings.maxRetries maxRetriesProblems)
    (conditions : Yields (conditionsField arguments) settings.abortConditions [])
    (handlers : ∀ (name : String) (handler : Option Handler),
      (name, handler) ∈ [("on_failed_attempt", settings.handlers.failedAttempt),
        ("on_retry", settings.handlers.retry),
        ("on_retry_scheduled", settings.handlers.retryScheduled),
        ("on_retries_exceeded", settings.handlers.retriesExceeded),
        ("on_abort", settings.handlers.abort)] →
      Yields (field arguments name none (readOptional readHandler)) handler [])
    (known : ∀ entry ∈ arguments, settingNames.contains entry.1 = true) :
    Yields (settingsOf arguments) settings
      (delayFactorProblems ++ jitterFactorProblems ++ maxRetriesProblems) := by
  have noUnknown :
      (arguments.filter fun entry => !settingNames.contains entry.1) = [] := by
    rw [List.filter_eq_nil_iff]
    intro entry member
    rw [known entry member]
    decide
  have run : Yields (settingsOf arguments) settings
      ([] ++ ([] ++ ([] ++ ([] ++ (delayFactorProblems ++ ([] ++ (jitterFactorProblems ++
        ([] ++ (maxRetriesProblems ++ ([] ++ ([] ++ ([] ++ ([] ++ ([] ++ ([] ++
          ([] ++ [])))))))))))))))) := by
    unfold settingsOf
    dsimp only
    rw [noUnknown]
    refine yields_bind delay (yields_bind delayMin (yields_bind delayMax
      (yields_bind maxDelay (yields_bind delayFactor (yields_bind jitter
      (yields_bind jitterFactor (yields_bind maxDuration (yields_bind maxRetries
      (yields_bind conditions ?_)))))))))
    refine yields_bind (handlers _ settings.handlers.failedAttempt (by simp)) ?_
    refine yields_bind (handlers _ settings.handlers.retry (by simp)) ?_
    refine yields_bind (handlers _ settings.handlers.retryScheduled (by simp)) ?_
    refine yields_bind (handlers _ settings.handlers.retriesExceeded (by simp)) ?_
    refine yields_bind (handlers _ settings.handlers.abort (by simp)) ?_
    exact yields_bind (yields_note []) (yields_pure settings)
  simpa only [List.nil_append, List.append_nil, List.append_assoc] using run

/-! ## Settings written out -/

theorem readOptional_ofDuration (duration : Option Duration) :
    readOptional readDuration (Settings.ofDuration duration) = .ok duration := by
  cases duration <;> rfl

theorem readOptional_ofHandler (handler : Option Handler) :
    readOptional readHandler (Settings.ofHandler handler) = .ok handler := by
  cases handler <;> rfl

theorem readNumber_float (fault? : Binary64 → Option Fault) (number : Binary64) :
    readNumber fault? (.value (.float number)) =
      (fault? number).elim (.ok number) fun fault => .error (.fault fault) := by
  simp only [readNumber, Field.number, Field.bounded, bind, Except.bind, Field.plain]
  cases fault? number <;> rfl

theorem readInteger_int (fault? : Int → Option Fault) (number : Int) :
    readInteger fault? (.value (.int number)) =
      (fault? number).elim (.ok number) fun fault => .error (.fault fault) := by
  simp only [readInteger, Field.integer, Field.bounded, bind, Except.bind, Field.plain]
  cases fault? number <;> rfl

theorem readOptional_jitterFactor (factor : Option Binary64) :
    readOptional (readNumber Settings.jitterFactorFault?)
        ((factor.map fun factor => Argument.value (.float factor)).getD (.value .null)) =
      (factor.bind Settings.jitterFactorFault?).elim (.ok factor) fun fault =>
        .error (.fault fault) := by
  cases factor with
  | none => rfl
  | some factor =>
      simp only [Option.map_some, Option.getD_some, readOptional, readNumber_float,
        Option.bind_some]
      cases Settings.jitterFactorFault? factor <;> rfl

theorem conditionsField_toArguments (settings : Settings) :
    Yields (conditionsField settings.toArguments) settings.abortConditions [] := by
  have given : settings.toArguments.get? "abort_conditions" =
      some (.several (settings.abortConditions.map Argument.condition)) := rfl
  simp only [conditionsField, given, items?]
  exact yields_inside (.field "abort_conditions")
    (readConditions_yields settings.abortConditions 0)

/-- Settings written out are read with their own problems, and without problems as they are. -/
theorem settingsOf_toArguments (settings : Settings) :
    ∃ taken, Yields (settingsOf settings.toArguments) taken settings.boundProblems ∧
      (settings.boundProblems = [] → taken = settings) := by
  have givenFactor : settings.toArguments.get? "delay_factor" =
      some (.value (.float settings.delayFactor)) := rfl
  have givenJitterFactor : settings.toArguments.get? "jitter_factor" =
      some ((settings.jitterFactor.map fun factor => Argument.value (.float factor)).getD
        (.value .null)) := rfl
  have givenRetries : settings.toArguments.get? "max_retries" =
      some (.value (.int settings.maxRetries)) := rfl
  have delayRead : readDuration (.value (.duration settings.delay)) = .ok settings.delay := rfl
  obtain ⟨factor, factorRead, factorKept⟩ :=
    field_yields_bounded "delay_factor" (Binary64.ofInt 2) settings.delayFactor
      (readNumber Settings.delayFactorFault?) _ givenFactor (readNumber_float _ _)
  obtain ⟨jitterFactor, jitterFactorRead, jitterFactorKept⟩ :=
    field_yields_bounded "jitter_factor" none settings.jitterFactor
      (readOptional (readNumber Settings.jitterFactorFault?)) _ givenJitterFactor
      (readOptional_jitterFactor _)
  obtain ⟨retries, retriesRead, retriesKept⟩ :=
    field_yields_bounded "max_retries" 2 settings.maxRetries
      (readInteger Settings.retriesFault?) _ givenRetries (readInteger_int _ _)
  refine ⟨{ settings with
    delayFactor := factor, jitterFactor := jitterFactor, maxRetries := retries }, ?_, ?_⟩
  · refine settingsOf_yields _
      (field_yields_read _ _ _ rfl delayRead)
      (field_yields_read _ _ _ rfl (readOptional_ofDuration settings.delayMin))
      (field_yields_read _ _ _ rfl (readOptional_ofDuration settings.delayMax))
      (field_yields_read _ _ _ rfl (readOptional_ofDuration settings.maxDelay)) factorRead
      (field_yields_read _ _ _ rfl (readOptional_ofDuration settings.jitter)) jitterFactorRead
      (field_yields_read _ _ _ rfl (readOptional_ofDuration settings.maxDuration)) retriesRead
      (conditionsField_toArguments settings) ?_ ?_
    · intro name handler member
      simp only [List.mem_cons, Prod.mk.injEq, List.not_mem_nil, or_false] at member
      rcases member with ⟨rfl, rfl⟩ | ⟨rfl, rfl⟩ | ⟨rfl, rfl⟩ | ⟨rfl, rfl⟩ | ⟨rfl, rfl⟩
      · exact field_yields_read _ _ _ rfl (readOptional_ofHandler settings.handlers.failedAttempt)
      · exact field_yields_read _ _ _ rfl (readOptional_ofHandler settings.handlers.retry)
      · exact field_yields_read _ _ _ rfl
          (readOptional_ofHandler settings.handlers.retryScheduled)
      · exact field_yields_read _ _ _ rfl
          (readOptional_ofHandler settings.handlers.retriesExceeded)
      · exact field_yields_read _ _ _ rfl (readOptional_ofHandler settings.handlers.abort)
    · intro entry member
      have named : entry.1 ∈ settings.toArguments.map Prod.fst := List.mem_map_of_mem member
      have sameNames : settings.toArguments.map Prod.fst = settingNames := rfl
      rw [sameNames] at named
      exact List.contains_iff_mem.mpr named
  · intro bounded
    simp only [Settings.boundProblems, List.append_eq_nil_iff, Option.toList_eq_nil_iff,
      Option.map_eq_none_iff] at bounded
    obtain ⟨⟨noFactor, noJitterFactor⟩, noRetries⟩ := bounded
    rw [factorKept noFactor, jitterFactorKept noJitterFactor, retriesKept noRetries]

/-- Settings written out as arguments make the policy that they make themselves. -/
theorem ofArguments_toArguments (settings : Settings) :
    ofArguments settings.toArguments = .ok (ofSettings settings) := by
  obtain ⟨taken, read, kept⟩ := settingsOf_toArguments settings
  rw [ofArguments, finish_of_yields read]
  by_cases bounded : settings.boundProblems = []
  · rw [kept bounded]
    simp [Except.map, Except.bind, bounded]
  · have found : settings.problems = settings.boundProblems := by
      simp [Settings.problems, bounded]
    simp [Except.map, Except.bind, ofSettings, bounded, found]

end Policy
end Reattempt
