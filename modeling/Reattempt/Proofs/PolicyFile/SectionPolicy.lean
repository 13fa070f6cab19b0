import Mathlib.Tactic
import Reattempt.Proofs.Decimal.Limit
import Reattempt.Proofs.PolicyFile.SectionChanges

/-!
# The policy of a section

A section becomes a policy by a series of changes. The same values can also be given as arguments of
one construction. Both accept the same sections and make the same policies, except that the changes
refuse a delay of zero and a limit of no attempts, which a construction cannot even be told, and
that a policy made by changes is noted, which raises an error if its limit on retries is too long.
-/

set_option autoImplicit false

namespace Reattempt

namespace RetrySection

variable {tag : Nat} {modules : ErrorName.Modules} {retry : RetrySection}

/-- Without names, the settings of a section are those of its changes. -/
theorem toSettings_of_changed {settings : Settings} (noNames : retry.abortOn = [])
    (changed : applyChanges tag retry.changes {} = .ok settings) :
    retry.toSettings tag modules = .ok settings := by
  unfold toSettings
  rw [changed, noNames]
  exact if_pos rfl

theorem toPolicy_of_changed {settings : Settings} (noNames : retry.abortOn = [])
    (changed : applyChanges tag retry.changes {} = .ok settings) :
    retry.toPolicy tag modules =
      match settings.buildAndNote with
      | .ok (.ok policy) => .ok policy
      | .ok (.error problems) => .error (.policy problems)
      | .error error => .error (.note error) := by
  have made : retry.toSettings tag modules = .ok settings :=
    toSettings_of_changed noNames changed
  rcases noted : settings.buildAndNote with error | (problems | policy) <;>
    simp only [toPolicy, made, noted, bind, Except.bind]

theorem toPolicy_eq_ok_iff (noNames : retry.abortOn = []) (policy : Policy) :
    retry.toPolicy tag modules = .ok policy ↔
      ∃ settings, applyChanges tag retry.changes {} = .ok settings ∧
        settings.build = .ok policy ∧ Decimal.isWritable policy.maxRetries = true := by
  cases changed : applyChanges tag retry.changes {} with
  | error error => simp [toPolicy, toSettings, changed, bind, Except.bind]
  | ok settings =>
      rw [toPolicy_of_changed noNames changed]
      simp only [Except.ok.injEq, exists_eq_left', ← Settings.buildAndNote_eq_ok_iff]
      split <;> simp_all

/-- The policy that a construction from the values of a section makes is what its changes lead to.
-/
theorem changes_of_constructed {policy : Policy} (valid : retry.Valid)
    (notZero : retry.delay ≠ some .zero) (someAttempts : retry.maxAttempts ≠ some 0)
    (constructed : Policy.ofArguments retry.toArguments = .ok (.ok policy)) :
    applyChanges tag retry.changes {} = .ok retry.directSettings ∧
      retry.directSettings.build = .ok policy := by
  rw [ofArguments_section retry valid, Except.ok.injEq] at constructed
  have consistent : retry.directSettings.Consistent := by
    rw [← Settings.problems_eq_nil_iff_consistent]
    by_contra unsound
    rw [Policy.ofSettings, dif_neg unsound] at constructed
    cases constructed
  exact ⟨(changes_leadTo retry valid notZero someAttempts _).mpr ⟨rfl, consistent⟩, constructed⟩

/-- A section that was read makes the same policy, or none, as a construction from its values, but
if the limit on retries is too long to be noted, it raises an error instead. A delay of zero and a
limit of no attempts are refused. -/
theorem section_policies_like_arguments (tag : Nat) (modules : ErrorName.Modules)
    (document : Mapping) (retry : RetrySection)
    (read : PolicyFile.sectionOf document = .ok retry) :
    (retry.abortOn = [] → retry.delay ≠ some .zero → retry.maxAttempts ≠ some 0 →
      ∀ policy,
        (retry.toPolicy tag modules = .ok policy ↔
          Policy.ofArguments retry.toArguments = .ok (.ok policy) ∧
            Decimal.isWritable policy.maxRetries = true) ∧
        (Policy.ofArguments retry.toArguments = .ok (.ok policy) →
          Decimal.isWritable policy.maxRetries = false →
            retry.toPolicy tag modules = .error (.note .digits))) ∧
    (retry.delay = some .zero ∨ retry.maxAttempts = some 0 →
      ∃ error, retry.toPolicy tag modules = .error error ∧
        error.toFailure.isInstance ErrorName.configurationError = true) := by
  have valid : retry.Valid := PolicyFile.sectionOf_valid read
  constructor
  · intro noNames notZero someAttempts policy
    refine ⟨?_, ?_⟩
    · rw [toPolicy_eq_ok_iff noNames policy]
      constructor
      · rintro ⟨settings, changed, built, writable⟩
        obtain ⟨rfl, -⟩ := (changes_leadTo retry valid notZero someAttempts settings).mp changed
        rw [ofArguments_section retry valid]
        exact ⟨congrArg Except.ok built, writable⟩
      · rintro ⟨constructed, writable⟩
        obtain ⟨changed, built⟩ := changes_of_constructed valid notZero someAttempts constructed
        exact ⟨_, changed, built, writable⟩
    · intro constructed long
      obtain ⟨changed, built⟩ := changes_of_constructed valid notZero someAttempts constructed
      rw [toPolicy_of_changed noNames changed, Settings.buildAndNote_of_built built, long]
      rfl
  · intro unsuitable
    cases answer : applyChanges tag retry.changes {} with
    | ok changed => exact absurd answer (changes_refused retry unsuitable {} changed)
    | error error =>
        have inRange : Change.InRange (applyChanges tag retry.changes {}) :=
          applyChanges_inRange retry.changes retry.changes_inRange {}
        refine ⟨.change error, ?_, change_toFailure_isInstance error fun range same => ?_⟩
        · simp [toPolicy, toSettings, answer, bind, Except.bind]
        · rw [same] at answer
          exact inRange range answer

/-- A section with a delay, a jitter and a limit on attempts makes the policy of its values; one
with a delay of zero makes none. -/
theorem section_policies_like_arguments_of_documents :
    (∃ retry policy,
      PolicyFile.sectionOf [(.text "retry", .mapping [(.text "delay", .int 5),
        (.text "jitter", .int 2), (.text "max_attempts", .int 4)])] = .ok retry ∧
      retry.toPolicy 1 = .ok policy ∧
      Policy.ofArguments retry.toArguments = .ok (.ok policy) ∧ policy.maxRetries = 3) ∧
    ∃ retry error,
      PolicyFile.sectionOf [(.text "retry", .mapping [(.text "delay", .int 0)])] = .ok retry ∧
      retry.toPolicy 1 = .error error ∧
      error.toFailure.isInstance ErrorName.configurationError = true := by
  constructor
  · obtain ⟨retry, read, noNames, delayed, attempts, sound⟩ : ∃ retry : RetrySection,
        PolicyFile.sectionOf [(.text "retry", .mapping [(.text "delay", .int 5),
          (.text "jitter", .int 2), (.text "max_attempts", .int 4)])] = .ok retry ∧
        retry.abortOn = [] ∧ retry.delay ≠ some .zero ∧ retry.maxAttempts ≠ some 0 ∧
        retry.directSettings.problems = [] ∧ retry.directSettings.maxRetries = 3 :=
      ⟨_, rfl, rfl, by decide, by decide, by decide +kernel, by decide⟩
    have constructed : Policy.ofArguments retry.toArguments =
        .ok (.ok ⟨retry.directSettings, sound.1⟩) := by
      rw [ofArguments_section retry (PolicyFile.sectionOf_valid read), Policy.ofSettings,
        dif_pos sound.1]
    have writable : Decimal.isWritable retry.directSettings.maxRetries = true := by
      rw [sound.2]
      decide +kernel
    have made := ((section_policies_like_arguments 1 .standard _ retry read).1 noNames delayed
      attempts _).1.mpr ⟨constructed, writable⟩
    exact ⟨retry, _, read, made, constructed, sound.2⟩
  · obtain ⟨retry, read, delayed⟩ : ∃ retry : RetrySection,
        PolicyFile.sectionOf [(.text "retry", .mapping [(.text "delay", .int 0)])] = .ok retry ∧
        retry.delay = some .zero := ⟨_, rfl, rfl⟩
    obtain ⟨error, refused, kind⟩ :=
      (section_policies_like_arguments 1 .standard _ retry read).2 (Or.inl delayed)
    exact ⟨retry, error, read, refused, kind⟩

deriving instance DecidableEq for Backoff, RetrySection

/-- A section with a limit on retries that is too long is accepted, and its values construct a
policy, but its changes end with an error in the value, which is no error of the configuration. -/
theorem section_not_noted_for_long_limit :
    ∃ (retry : RetrySection) (policy : Policy),
      PolicyFile.sectionOf [(.text "retry",
        .mapping [(.text "max_retries", .int Decimal.tooLong)])] = .ok retry ∧
      Policy.ofArguments retry.toArguments = .ok (.ok policy) ∧
      retry.toPolicy 0 = .error (.note .digits) ∧
      (SectionError.note .digits).toFailure.kind = .valueError ∧
      (SectionError.note .digits).toFailure.isInstance ErrorName.configurationError = false := by
  obtain ⟨retry, read, noNames, delayed, attempts, direct⟩ : ∃ retry : RetrySection,
      PolicyFile.sectionOf [(.text "retry",
        .mapping [(.text "max_retries", .int Decimal.tooLong)])] = .ok retry ∧
      retry.abortOn = [] ∧ retry.delay ≠ some .zero ∧ retry.maxAttempts ≠ some 0 ∧
      retry.directSettings = { maxRetries := Decimal.tooLong } :=
    ⟨{ maxRetries := some Decimal.tooLong }, by decide +kernel, rfl, by decide, by decide,
      by simp [directSettings]⟩
  have consistent : retry.directSettings.Consistent := by
    rw [direct]
    exact { Settings.standard_consistent with
      retries_at_least := Int.le_trans (by decide) Decimal.tooLong_nonneg }
  obtain ⟨policy, same, built, -⟩ := consistent.build_eq_ok
  have valid : retry.Valid := PolicyFile.sectionOf_valid read
  have constructed : Policy.ofArguments retry.toArguments = .ok (.ok policy) := by
    rw [ofArguments_section retry valid]
    exact congrArg Except.ok built
  have changed : applyChanges 0 retry.changes {} = .ok retry.directSettings :=
    (changes_of_constructed valid delayed attempts constructed).1
  have long : Decimal.isWritable policy.maxRetries = false := by
    rw [same, direct]
    exact Decimal.isWritable_tooLong
  refine ⟨retry, policy, read, constructed, ?_, rfl, by decide +kernel⟩
  rw [toPolicy_of_changed noNames changed, Settings.buildAndNote_of_built built, long]
  rfl

end RetrySection
end Reattempt
