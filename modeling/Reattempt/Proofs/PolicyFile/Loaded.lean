import Mathlib.Tactic
import Reattempt.Proofs.Decision.Totality
import Reattempt.Proofs.PolicyFile.SectionChanges

/-!
# Policies of files

A file names error classes and sets numbers and durations. The policy of a file therefore has no
handlers, and its conditions raise nothing whatever they are asked about
(`toPolicy_handlers_quiet`, `toPolicy_conditions_quiet`). Its limit on retries can be written, since
it was noted.
-/

set_option autoImplicit false

namespace Reattempt

theorem PolicyFile.loadFile_valid {environment : Environment} {path : String}
    {file : Option (Except FileError Value)} {retry : RetrySection}
    (loads : loadFile environment path file = .ok retry) : retry.Valid := by
  unfold loadFile at loads
  split at loads
  · cases loads
  · exact sectionOf_valid loads

theorem PolicyFile.load_valid {environment : Environment} {files : Files}
    {directories : List String} {given : Option String} {loaded : Loaded}
    (loads : load environment files directories given = .ok loaded) : loaded.retry.Valid := by
  unfold load at loads
  obtain ⟨retry, read, rfl⟩ := (map_eq_ok_iff _ _ _).mp loads
  split at read
  · exact loadFile_valid read
  · exact loadFile_valid read

namespace RetrySection

variable {retry : RetrySection} {tag : Nat} {modules : ErrorName.Modules} {settings : Settings}
  {policy : Policy}

/-- Changes that are accepted lead to the values of the section and to nothing else. -/
theorem eq_directSettings (valid : retry.Valid)
    (accepted : applyChanges tag retry.changes {} = .ok settings) :
    settings = retry.directSettings := by
  by_cases unsuitable : retry.delay = some .zero ∨ retry.maxAttempts = some 0
  · exact absurd accepted (changes_refused retry unsuitable {} settings)
  · obtain ⟨notZero, someAttempts⟩ := not_or.mp unsuitable
    exact ((changes_leadTo retry valid notZero someAttempts settings).mp accepted).1.symm

/-- The settings of a section are its values, and a condition on error classes if it has names. -/
theorem toSettings_eq_ok (valid : retry.Valid)
    (made : retry.toSettings tag modules = .ok settings) :
    settings = retry.directSettings ∨ ∃ errorClasses,
      settings = retry.directSettings.addRule tag (.failureTypes errorClasses) := by
  unfold toSettings at made
  split at made
  · cases made
  · rename_i changed accepted
    cases eq_directSettings valid accepted
    unfold addNames at made
    split at made
    · cases made
      exact Or.inl rfl
    · split at made
      · cases made
      · rename_i errorClasses resolved
        cases made
        exact Or.inr ⟨errorClasses, rfl⟩

/-- A policy of a section was built from its settings, and noted. -/
theorem exists_built (made : retry.toPolicy tag modules = .ok policy) :
    ∃ settings, retry.toSettings tag modules = .ok settings ∧
      settings.build = .ok policy ∧ Decimal.isWritable policy.maxRetries = true := by
  unfold toPolicy at made
  obtain ⟨settings, first, built⟩ := (bind_eq_ok_iff _ _ _).mp made
  refine ⟨settings, first, Settings.buildAndNote_eq_ok_iff.mp ?_⟩
  split at built
  · rename_i noted
    cases built
    exact noted
  · cases built
  · cases built

theorem exists_toSettings (made : retry.toPolicy tag modules = .ok policy) :
    retry.toSettings tag modules = .ok policy.toSettings := by
  obtain ⟨settings, first, built, -⟩ := exists_built made
  unfold Settings.build Policy.ofSettings at built
  split at built
  · cases built
    exact first
  · cases built

theorem toPolicy_handlers_quiet (valid : retry.Valid)
    (made : retry.toPolicy tag modules = .ok policy) : policy.handlers.Quiet := by
  have silent : policy.handlers = {} := by
    rcases toSettings_eq_ok valid (exists_toSettings made) with same | ⟨errorClasses, same⟩
    · rw [same]
      rfl
    · rw [same]
      rfl
  intro occasion handler event raised handles
  rw [silent] at handles
  cases occasion <;> cases handles

/-- The conditions of a section only look for error classes. -/
theorem toPolicy_conditions_quiet (valid : retry.Valid)
    (made : retry.toPolicy tag modules = .ok policy) (result : Value) (failure : Option Failure) :
    ∀ condition ∈ policy.abortConditions, condition.Quiet result failure := by
  rcases toSettings_eq_ok valid (exists_toSettings made) with same | ⟨errorClasses, same⟩
  · have none : policy.abortConditions = [] := by
      rw [same]
      rfl
    simp [none]
  · have single : policy.abortConditions = [⟨.own tag, .failureTypes errorClasses⟩] := by
      rw [same]
      rfl
    intro condition listed raised judged
    rw [single, List.mem_singleton] at listed
    cases listed
    cases judged

end RetrySection
end Reattempt
