import Mathlib.Tactic
import Reattempt.Proofs.Builder.Completeness
import Reattempt.Proofs.Builder.ArgumentFaults
import Reattempt.Proofs.PolicyFile.SectionArguments

/-!
# The changes of a section

A section asks for changes to the standard settings, one for each value. They lead to the settings
with all its values, stage by stage, and every stage can be reached if the last one is consistent.
A delay of zero and a limit of no attempts are refused.
-/

set_option autoImplicit false

namespace Reattempt

namespace RetrySection

variable {tag : Nat} {before middle after : Settings}

theorem applyChanges_append (early late : List Change) : ∀ settings : Settings,
    applyChanges tag (early ++ late) settings =
      applyChanges tag early settings >>= applyChanges tag late := by
  induction early with
  | nil => exact fun settings => rfl
  | cons change rest ih =>
      intro settings
      simp only [List.cons_append, applyChanges, bind_assoc]
      exact bind_congr ih

theorem applyChanges_single (change : Change) (settings : Settings) :
    applyChanges tag [change] settings = settings.change tag change := by
  simp only [applyChanges]
  cases settings.change tag change <;> rfl

/-- The changes lead to these settings, and are refused exactly if those are not consistent. -/
def LeadTo (tag : Nat) (changes : List Change) (before after : Settings) : Prop :=
  ∀ changed, applyChanges tag changes before = .ok changed ↔ after = changed ∧ changed.Consistent

theorem leadTo_append {early late : List Change} (first : LeadTo tag early before middle)
    (second : middle.Consistent → LeadTo tag late middle after)
    (takenBack : after.Consistent → middle.Consistent) :
    LeadTo tag (early ++ late) before after := by
  intro changed
  rw [applyChanges_append, bind_eq_ok_iff]
  constructor
  · rintro ⟨between, reached, rest⟩
    obtain ⟨rfl, consistent⟩ := (first between).mp reached
    exact (second consistent changed).mp rest
  · rintro ⟨rfl, consistent⟩
    have between := takenBack consistent
    exact ⟨middle, (first middle).mpr ⟨rfl, between⟩, (second between after).mpr ⟨rfl, consistent⟩⟩

/-- A change that is made if there is a value for it. -/
theorem leadTo_stored {α : Type} (stored : Option α) (toChange : α → Change)
    (consistent : before.Consistent) (unchanged : stored = none → before = after)
    (changes : ∀ value, stored = some value → ∀ changed,
      before.change tag (toChange value) = .ok changed ↔ after = changed ∧ changed.Consistent) :
    LeadTo tag (stored.map toChange).toList before after := by
  intro changed
  cases found : stored with
  | none =>
      cases unchanged found
      constructor
      · intro kept
        cases Except.ok.inj kept
        exact ⟨rfl, consistent⟩
      · rintro ⟨rfl, _⟩
        rfl
  | some value =>
      rw [← changes value found changed, ← applyChanges_single]
      rfl

theorem Valid.one_limit {retry : RetrySection} (valid : retry.Valid) :
    retry.maxRetries = none ∨ retry.maxAttempts = none := by
  have noConflict := valid.no_conflict
  unfold conflict? at noConflict
  cases retries : retry.maxRetries with
  | none => exact Or.inl rfl
  | some limit =>
      cases attempts : retry.maxAttempts with
      | none => exact Or.inr rfl
      | some limit => simp [retries, attempts] at noConflict

theorem Valid.one_delay {retry : RetrySection} (valid : retry.Valid) : retry.delayModes ≤ 1 := by
  have noConflict := valid.no_conflict
  unfold conflict? at noConflict
  split at noConflict
  · cases noConflict
  · simpa using noConflict

/-! The settings between the changes, from the last to the first. -/

def retried (retry : RetrySection) : Settings :=
  { retry.directSettings with maxRetries := retry.maxRetries.getD 2 }

def limited (retry : RetrySection) : Settings := { retry.directSettings with maxRetries := 2 }

def loosened (retry : RetrySection) : Settings := { retry.limited with maxDuration := none }

def jittered (retry : RetrySection) : Settings := { retry.loosened with jitterFactor := none }

def delayed (retry : RetrySection) : Settings := { retry.jittered with jitter := none }

theorem delayed_eq (retry : RetrySection) :
    retry.delayed =
      { delay := (retry.delay <|> retry.backoff.map Backoff.delay).getD .zero
        delayMin := retry.delayRange.map DelayRange.min
        delayMax := retry.delayRange.map DelayRange.max
        maxDelay := retry.backoff.map Backoff.maxDelay
        delayFactor := (retry.backoff.map Backoff.factor).getD (Binary64.ofInt 2) } := rfl

theorem leadTo_delayed (retry : RetrySection) (valid : retry.Valid)
    (notZero : retry.delay ≠ some .zero) :
    LeadTo tag retry.delayChange?.toList {} retry.delayed := by
  have consistent := Settings.standard_consistent
  have alone := valid.one_delay
  intro changed
  cases delayCase : retry.delay with
  | some delay =>
      have noRange : retry.delayRange = none := by
        cases rangeCase : retry.delayRange with
        | none => rfl
        | some range =>
            simp only [delayModes, delayCase, rangeCase, Option.isSome_some,
              Bool.toNat_true] at alone
            omega
      have noBackoff : retry.backoff = none := by
        cases backoffCase : retry.backoff with
        | none => rfl
        | some backoff =>
            simp only [delayModes, delayCase, backoffCase, Option.isSome_some,
              Bool.toNat_true] at alone
            omega
      have single : retry.delayChange?.toList = [.delay (.duration delay)] := by
        simp [delayChange?, delayCase]
      have delayedIs : retry.delayed = { ({} : Settings) with delay := delay } := by
        simp [delayed_eq, delayCase, noRange, noBackoff]
      have positive : delay ≠ .zero := by
        rintro rfl
        exact notZero delayCase
      rw [single, applyChanges_single, delayedIs]
      exact Settings.withDelay_eq_ok_iff_consistent consistent rfl positive rfl rfl
  | none =>
      cases rangeCase : retry.delayRange with
      | some range =>
          have noBackoff : retry.backoff = none := by
            cases backoffCase : retry.backoff with
            | none => rfl
            | some backoff =>
                simp only [delayModes, rangeCase, backoffCase, Option.isSome_some,
                  Bool.toNat_true] at alone
                omega
          have single : retry.delayChange?.toList =
              [.delayRange (.duration range.min) (.duration range.max)] := by
            simp [delayChange?, delayCase, rangeCase]
          have delayedIs : retry.delayed =
              { ({} : Settings) with
                delayMin := some range.min, delayMax := some range.max } := by
            simp [delayed_eq, delayCase, rangeCase, noBackoff]
          rw [single, applyChanges_single, delayedIs]
          exact Settings.withDelayRange_eq_ok_iff_consistent consistent rfl rfl
      | none =>
          cases backoffCase : retry.backoff with
          | some backoff =>
              have single : retry.delayChange?.toList =
                  [.backoff (.duration backoff.delay) (.duration backoff.maxDelay)
                    (.float backoff.factor)] := by
                simp [delayChange?, delayCase, rangeCase, backoffCase]
              have delayedIs : retry.delayed =
                  { ({} : Settings) with
                    delay := backoff.delay
                    maxDelay := some backoff.maxDelay
                    delayFactor := backoff.factor } := by
                simp [delayed_eq, delayCase, rangeCase, backoffCase]
              rw [single, applyChanges_single, delayedIs]
              exact Settings.withBackoff_eq_ok_iff_consistent consistent rfl rfl rfl rfl
          | none =>
              have nothing : retry.delayChange?.toList = [] := by
                simp [delayChange?, delayCase, rangeCase, backoffCase]
              have delayedIs : retry.delayed = {} := by
                simp [delayed_eq, delayCase, rangeCase, backoffCase]
              rw [nothing, delayedIs]
              constructor
              · intro kept
                cases Except.ok.inj kept
                exact ⟨rfl, consistent⟩
              · rintro ⟨rfl, _⟩
                rfl

theorem leadTo_jittered (retry : RetrySection) (consistent : retry.delayed.Consistent) :
    LeadTo tag (retry.jitter.map fun jitter => Change.jitter (.duration jitter)).toList
      retry.delayed retry.jittered := by
  refine leadTo_stored _ _ consistent ?_ ?_
  · intro absent
    simp [delayed, jittered, loosened, limited, directSettings, absent]
  · intro jitter given changed
    have reached : { retry.delayed with jitter := some jitter } = retry.jittered := by
      simp [delayed, jittered, loosened, limited, directSettings, given]
    rw [← reached]
    exact Settings.withJitter_eq_ok_iff_consistent consistent rfl rfl

theorem leadTo_loosened (retry : RetrySection) (consistent : retry.jittered.Consistent) :
    LeadTo tag (retry.jitterFactor.map fun factor => Change.jitterFactor (.float factor)).toList
      retry.jittered retry.loosened := by
  refine leadTo_stored _ _ consistent ?_ ?_
  · intro absent
    simp [jittered, loosened, limited, directSettings, absent]
  · intro factor given changed
    have reached : { retry.jittered with jitterFactor := some factor } = retry.loosened := by
      simp [jittered, loosened, limited, directSettings, given]
    rw [← reached]
    exact Settings.withJitterFactor_eq_ok_iff_consistent consistent rfl

theorem leadTo_limited (retry : RetrySection) (consistent : retry.loosened.Consistent) :
    LeadTo tag (retry.maxDuration.map fun limit => Change.maxDuration (.duration limit)).toList
      retry.loosened retry.limited := by
  refine leadTo_stored _ _ consistent ?_ ?_
  · intro absent
    simp [loosened, limited, directSettings, absent]
  · intro limit given changed
    have reached : { retry.loosened with maxDuration := some limit } = retry.limited := by
      simp [loosened, limited, directSettings, given]
    rw [← reached]
    exact Settings.withMaxDuration_eq_ok_iff_consistent consistent rfl

theorem leadTo_retried (retry : RetrySection) (consistent : retry.limited.Consistent) :
    LeadTo tag (retry.maxRetries.map fun retries => Change.maxRetries (.int retries)).toList
      retry.limited retry.retried := by
  refine leadTo_stored _ _ consistent ?_ ?_
  · intro absent
    simp [limited, retried, absent]
  · intro retries given changed
    have reached : { retry.limited with maxRetries := retries } = retry.retried := by
      simp [limited, retried, given]
    rw [← reached]
    exact Settings.withMaxRetries_eq_ok_iff_consistent consistent rfl

theorem leadTo_directSettings (retry : RetrySection) (valid : retry.Valid)
    (someAttempts : retry.maxAttempts ≠ some 0) (consistent : retry.retried.Consistent) :
    LeadTo tag (retry.maxAttempts.map fun attempts => Change.maxAttempts (.int attempts)).toList
      retry.retried retry.directSettings := by
  refine leadTo_stored _ _ consistent ?_ ?_
  · intro absent
    simp [retried, directSettings, absent]
  · intro attempts given changed
    have positive : attempts ≠ 0 := by
      rintro rfl
      exact someAttempts given
    have noRetries : retry.maxRetries = none :=
      valid.one_limit.resolve_right (by simp [given])
    have reached :
        { retry.retried with maxRetries := if attempts = -1 then -1 else attempts - 1 } =
          retry.directSettings := by
      simp [retried, directSettings, given, noRetries, retriesOf]
    rw [← reached]
    exact Settings.withMaxAttempts_eq_ok_iff_consistent consistent rfl positive

theorem retried_consistent (retry : RetrySection) (consistent : retry.directSettings.Consistent) :
    retry.retried.Consistent := by
  cases given : retry.maxRetries with
  | none =>
      have same : retry.retried = { retry.directSettings with maxRetries := 2 } := by
        simp [retried, given]
      rw [same]
      exact consistent.withoutLimits
  | some retries =>
      have same : retry.retried = retry.directSettings := by
        simp [retried, directSettings, given]
      rw [same]
      exact consistent

/-- The changes that a section asks for are accepted exactly if its settings are consistent. -/
theorem changes_leadTo (retry : RetrySection) (valid : retry.Valid)
    (notZero : retry.delay ≠ some .zero) (someAttempts : retry.maxAttempts ≠ some 0) :
    LeadTo tag retry.changes {} retry.directSettings := by
  have toDelayed : LeadTo tag retry.delayChange?.toList {} retry.delayed :=
    leadTo_delayed retry valid notZero
  have toJittered := leadTo_append toDelayed retry.leadTo_jittered
    Settings.Consistent.withoutJitter
  have toLoosened := leadTo_append toJittered retry.leadTo_loosened
    Settings.Consistent.withoutJitterFactor
  have toLimited := leadTo_append toLoosened retry.leadTo_limited
    Settings.Consistent.withoutMaxDuration
  have toRetried : LeadTo tag _ {} retry.retried :=
    leadTo_append toLimited retry.leadTo_retried Settings.Consistent.withoutLimits
  exact leadTo_append toRetried (retry.leadTo_directSettings valid someAttempts)
    retry.retried_consistent

/-! ## Refusals -/

theorem applyChanges_inRange (changes : List Change)
    (each : ∀ change ∈ changes, ∀ settings : Settings,
      Change.InRange (settings.change tag change)) :
    ∀ settings, Change.InRange (applyChanges tag changes settings) := by
  induction changes with
  | nil => exact fun settings error refused => by cases refused
  | cons change rest ih =>
      intro settings
      exact Change.inRange_bind (each change (by simp) settings)
        (ih fun later member => each later (by simp [member]))

/-- The values of a section have the types that the changes take, so none is out of range. -/
theorem changes_inRange (retry : RetrySection) :
    ∀ change ∈ retry.changes, ∀ settings : Settings,
      Change.InRange (settings.change tag change) := by
  intro change member settings
  refine Settings.change_inRange ?_ settings tag
  simp only [changes, delayChange?, List.mem_append, Option.mem_toList, Option.map_eq_some_iff]
    at member
  rcases member with ((((delayed | ⟨jitter, _, rfl⟩) | ⟨factor, _, rfl⟩) | ⟨limit, _, rfl⟩) |
    ⟨retries, _, rfl⟩) | ⟨attempts, _, rfl⟩
  · split at delayed <;> cases delayed <;>
      simp [Change.OutOfRange, Change.not_beyondRange_duration, Change.Unshown, Value.isShowable]
  · exact Change.not_beyondRange_duration jitter
  · simp [Change.OutOfRange, Change.Unshown, Value.isShowable]
  · exact Change.not_beyondRange_duration limit
  · exact Change.not_unshown_of_some rfl
  · exact Change.not_unshown_of_some rfl

/-- A delay of zero is refused, and so is a limit of no attempts. -/
theorem changes_refused (retry : RetrySection)
    (unsuitable : retry.delay = some .zero ∨ retry.maxAttempts = some 0) (settings : Settings) :
    ∀ changed, applyChanges tag retry.changes settings ≠ .ok changed := by
  intro changed accepted
  rcases unsuitable with delayCase | attemptsCase
  · have split : retry.changes = .delay (.duration .zero) :: retry.changes.tail := by
      simp [changes, delayChange?, delayCase]
    rw [split, applyChanges, bind_eq_ok_iff] at accepted
    obtain ⟨first, refused, _⟩ := accepted
    obtain ⟨delay, read, positive, _⟩ :=
      (Settings.withDelay_eq_ok_iff settings first (.duration .zero)).mp refused
    cases read
    exact absurd positive (by simp [Duration.lt_iff])
  · obtain ⟨early, isSplit⟩ : ∃ early, retry.changes = early ++ [.maxAttempts (.int 0)] := by
      simp only [changes, attemptsCase, Option.map_some, Option.toList_some]
      exact ⟨_, rfl⟩
    rw [isSplit, applyChanges_append, bind_eq_ok_iff] at accepted
    obtain ⟨middle, _, refused⟩ := accepted
    rw [applyChanges_single] at refused
    obtain ⟨attempts, read, notZero, _⟩ :=
      (Settings.withMaxAttempts_eq_ok_iff middle changed (.int 0)).mp refused
    cases read
    exact notZero rfl

/-- A refused change is raised as a configuration error. -/
theorem change_toFailure_isInstance (error : ChangeError)
    (inRange : ∀ range, error ≠ .range range) :
    (SectionError.change error).toFailure.isInstance ErrorName.configurationError = true := by
  cases error with
  | argument fault =>
      have below : ErrorName.invalidArgumentError.isA ErrorName.configurationError.path := by
        decide +kernel
      exact below
  | state conflict =>
      have below : ErrorName.invalidStateError.isA ErrorName.configurationError.path := by
        decide +kernel
      exact below
  | range error => exact absurd rfl (inRange error)

end RetrySection
end Reattempt
