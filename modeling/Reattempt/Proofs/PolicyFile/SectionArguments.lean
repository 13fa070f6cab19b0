import Mathlib.Tactic
import Reattempt.Proofs.Policy.Construction
import Reattempt.Proofs.PolicyFile.Reading

/-!
# The values of a section as arguments

The values of a section can be given as arguments of one construction. They are read as they are,
so the construction succeeds exactly if they make settings without problems.
-/

set_option autoImplicit false

namespace Reattempt

namespace RetrySection

def retriesOf (attempts : Int) : Int := if attempts = -1 then -1 else attempts - 1

def argument (name : String) (value? : Option Value) : NamedArguments :=
  (value?.map fun value => (name, Argument.value value)).toList

/-- The arguments of a construction from the values of the section; there are none for what the
section leaves open. -/
def toArguments (retry : RetrySection) : NamedArguments :=
  argument "delay" (retry.delay.map Value.duration) ++
    argument "delay_min" (retry.delayRange.map fun range => .duration range.min) ++
    argument "delay_max" (retry.delayRange.map fun range => .duration range.max) ++
    argument "delay" (retry.backoff.map fun backoff => .duration backoff.delay) ++
    argument "max_delay" (retry.backoff.map fun backoff => .duration backoff.maxDelay) ++
    argument "delay_factor" (retry.backoff.map fun backoff => .float backoff.factor) ++
    argument "jitter" (retry.jitter.map Value.duration) ++
    argument "jitter_factor" (retry.jitterFactor.map Value.float) ++
    argument "max_duration" (retry.maxDuration.map Value.duration) ++
    argument "max_retries" (retry.maxRetries.map Value.int) ++
    argument "max_retries" (retry.maxAttempts.map fun attempts => .int (retriesOf attempts))

def directSettings (retry : RetrySection) : Settings where
  delay := (retry.delay <|> retry.backoff.map Backoff.delay).getD .zero
  delayMin := retry.delayRange.map DelayRange.min
  delayMax := retry.delayRange.map DelayRange.max
  maxDelay := retry.backoff.map Backoff.maxDelay
  delayFactor := (retry.backoff.map Backoff.factor).getD (Binary64.ofInt 2)
  jitter := retry.jitter
  jitterFactor := retry.jitterFactor
  maxDuration := retry.maxDuration
  maxRetries := (retry.maxRetries <|> retry.maxAttempts.map retriesOf).getD 2

/-! ## Construction -/

theorem get?_append (early late : NamedArguments) (name : String) :
    NamedArguments.get? (early ++ late) name = (early.get? name).or (late.get? name) := by
  simp [NamedArguments.get?, List.find?_append, Option.map_or]

theorem get?_argument (key name : String) (value? : Option Value) :
    (argument key value?).get? name =
      if key = name then value?.map Argument.value else none := by
  cases value? with
  | none => simp [argument, NamedArguments.get?]
  | some value =>
      by_cases same : key = name
      · simp [argument, NamedArguments.get?, same]
      · simp [argument, NamedArguments.get?, same]

/-- Both limits come to a limit on retries that is a count, or -1. -/
theorem Valid.limit_at_least {retry : RetrySection} (valid : retry.Valid) :
    ∀ retries ∈ (retry.maxRetries <|> retry.maxAttempts.map retriesOf), -1 ≤ retries := by
  intro retries given
  cases limit : retry.maxRetries with
  | some stored =>
      rw [limit] at given
      cases given
      exact valid.maxRetries_at_least _ limit
  | none =>
      rw [limit] at given
      obtain ⟨attempts, stored, rfl⟩ := Option.map_eq_some_iff.mp given
      have bounded := valid.maxAttempts_at_least attempts stored
      unfold retriesOf
      split <;> omega

theorem field_yields_stored {α β : Type} {arguments : NamedArguments} (name : String)
    {standard result : α} {read : Argument → Except Field.Rejection α} (stored : Option β)
    (wrap : β → Value) (taken : β → α)
    (given : arguments.get? name = (stored.map wrap).map Argument.value)
    (accepted : ∀ value ∈ stored, read (.value (wrap value)) = .ok (taken value))
    (same : (stored.map taken).getD standard = result) :
    Validation.Yields (Policy.field arguments name standard read) result [] := by
  cases stored with
  | none =>
      cases same
      exact Policy.field_yields_absent name standard read given
  | some value =>
      cases same
      exact Policy.field_yields_read standard (taken value) read given (accepted value rfl)

theorem field_yields_duration {arguments : NamedArguments} (name : String)
    (duration : Option Duration)
    (given : arguments.get? name = (duration.map Value.duration).map Argument.value) :
    Validation.Yields
      (Policy.field arguments name none (Policy.readOptional Policy.readDuration)) duration [] :=
  field_yields_stored name duration .duration some given (fun _ _ => rfl)
    (by cases duration <;> rfl)

theorem toArguments_names (retry : RetrySection) :
    ∀ entry ∈ retry.toArguments, Policy.settingNames.contains entry.1 = true := by
  intro entry member
  simp only [toArguments, argument, List.mem_append, Option.mem_toList,
    Option.map_eq_some_iff] at member
  rcases member with (((((((((⟨_, _, rfl⟩ | ⟨_, _, rfl⟩) | ⟨_, _, rfl⟩) | ⟨_, _, rfl⟩) |
    ⟨_, _, rfl⟩) | ⟨_, _, rfl⟩) | ⟨_, _, rfl⟩) | ⟨_, _, rfl⟩) | ⟨_, _, rfl⟩) | ⟨_, _, rfl⟩) |
    ⟨_, _, rfl⟩
  all_goals rfl

/-- The arguments of a section are read as its settings. -/
theorem settingsOf_section (retry : RetrySection) (valid : retry.Valid) :
    Validation.Yields (Policy.settingsOf retry.toArguments) retry.directSettings [] := by
  have delay : Validation.Yields
      (Policy.field retry.toArguments "delay" Duration.zero Policy.readDuration)
      retry.directSettings.delay [] := by
    refine field_yields_stored "delay" (retry.delay <|> retry.backoff.map Backoff.delay)
      Value.duration id ?_ (fun _ _ => rfl) (by rw [Option.map_id]; rfl)
    simp [toArguments, get?_append, get?_argument, Option.map_or, Function.comp_def]
  have delayFactor : Validation.Yields
      (Policy.field retry.toArguments "delay_factor" (Binary64.ofInt 2)
        (Policy.readNumber Settings.delayFactorFault?)) retry.directSettings.delayFactor [] := by
    refine field_yields_stored "delay_factor" retry.backoff
      (fun backoff => Value.float backoff.factor) Backoff.factor ?_ ?_ rfl
    · simp [toArguments, get?_append, get?_argument]
    · intro backoff given
      have bounded := (Settings.delayFactorFault?_eq_none_iff _).mpr
        (valid.factor_above_one backoff given)
      rw [Policy.readNumber_float, bounded]
      rfl
  have jitterFactor : Validation.Yields
      (Policy.field retry.toArguments "jitter_factor" none
        (Policy.readOptional (Policy.readNumber Settings.jitterFactorFault?)))
      retry.directSettings.jitterFactor [] := by
    refine field_yields_stored "jitter_factor" retry.jitterFactor Value.float some ?_ ?_ ?_
    · simp [toArguments, get?_append, get?_argument]
    · intro factor given
      have bounded := (Settings.jitterFactorFault?_eq_none_iff _).mpr
        (valid.jitterFactor_within_one factor given)
      rw [Policy.readOptional, Policy.readNumber_float, bounded]
      · rfl
      · simp
    · simp only [directSettings]
      cases retry.jitterFactor <;> rfl
  have maxRetries : Validation.Yields
      (Policy.field retry.toArguments "max_retries" (2 : Int)
        (Policy.readInteger Settings.retriesFault?)) retry.directSettings.maxRetries [] := by
    refine field_yields_stored "max_retries"
      (retry.maxRetries <|> retry.maxAttempts.map retriesOf) Value.int id ?_ ?_
      (by rw [Option.map_id]; rfl)
    · simp [toArguments, get?_append, get?_argument, Option.map_or, Function.comp_def]
    · intro retries given
      have bounded := (Settings.retriesFault?_eq_none_iff _).mpr
        (valid.limit_at_least retries given)
      rw [Policy.readInteger_int, bounded]
      rfl
  have conditions : Validation.Yields (Policy.conditionsField retry.toArguments) [] [] := by
    have absent : retry.toArguments.get? "abort_conditions" = none := by
      simp [toArguments, get?_append, get?_argument]
    simp only [Policy.conditionsField, absent]
    exact Validation.yields_pure []
  have handlers : ∀ name ∈ ["on_failed_attempt", "on_retry", "on_retry_scheduled",
      "on_retries_exceeded", "on_abort"], retry.toArguments.get? name = none := by
    intro name member
    simp only [List.mem_cons, List.not_mem_nil, or_false] at member
    rcases member with rfl | rfl | rfl | rfl | rfl
    all_goals simp [toArguments, get?_append, get?_argument]
  refine Policy.settingsOf_yields retry.directSettings delay
    (field_yields_duration "delay_min" _ ?_) (field_yields_duration "delay_max" _ ?_)
    (field_yields_duration "max_delay" _ ?_) delayFactor (field_yields_duration "jitter" _ ?_)
    jitterFactor (field_yields_duration "max_duration" _ ?_) maxRetries conditions ?_
    retry.toArguments_names
  · simp [toArguments, get?_append, get?_argument, directSettings, Function.comp_def]
  · simp [toArguments, get?_append, get?_argument, directSettings, Function.comp_def]
  · simp [toArguments, get?_append, get?_argument, directSettings, Function.comp_def]
  · simp [toArguments, get?_append, get?_argument, directSettings]
  · simp [toArguments, get?_append, get?_argument, directSettings]
  · intro name handler member
    simp only [List.mem_cons, Prod.mk.injEq, List.not_mem_nil, or_false] at member
    rcases member with ⟨rfl, rfl⟩ | ⟨rfl, rfl⟩ | ⟨rfl, rfl⟩ | ⟨rfl, rfl⟩ | ⟨rfl, rfl⟩
    all_goals exact Policy.field_yields_absent _ none _ (handlers _ (by simp))

/-- A section is accepted by a construction exactly if its settings are consistent. -/
theorem ofArguments_section (retry : RetrySection) (valid : retry.Valid) :
    Policy.ofArguments retry.toArguments = .ok (Policy.ofSettings retry.directSettings) := by
  rw [Policy.ofArguments, Validation.finish_of_yields (settingsOf_section retry valid)]
  simp only [List.isEmpty_nil, if_true, Except.map, Except.bind]

end RetrySection
end Reattempt
