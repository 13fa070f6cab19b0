import Mathlib.Tactic
import Reattempt.CommandLine
import Reattempt.Proofs.Decimal.Limit
import Reattempt.Proofs.Field.Validation

/-!
# The options of a preview

Each option is checked when its value is read, so that a command line that is accepted asks for at
least one failure, for no more than can be written, and for a time that is not below zero. That does
not make the time finite, or a number.
-/

set_option autoImplicit false

namespace Reattempt.CommandLine

structure SimulateOptions.InRange (options : SimulateOptions) : Prop where
  someFailures : 1 ≤ options.failures
  writable : Decimal.isWritable options.failures = true
  notBelow : ¬ options.attemptTime < Binary64.zero

theorem SimulateOptions.standard_inRange : SimulateOptions.InRange {} :=
  ⟨by decide, by decide +kernel, by decide⟩

theorem wholeValue_writable {name kind text : String} {number : Int}
    (read : wholeValue name kind text = .ok number) : Decimal.isWritable number = true := by
  unfold wholeValue at read
  split at read
  · rename_i spoken
    cases read
    exact Decimal.isWritable_of_spoken spoken
  · cases read

theorem failuresValue_within {text : String} {number : Int}
    (read : failuresValue text = .ok number) :
    1 ≤ number ∧ Decimal.isWritable number = true := by
  unfold failuresValue at read
  obtain ⟨whole, spoken, checked⟩ := (bind_eq_ok_iff _ _ _).mp read
  split at checked
  · cases checked
  · rename_i enough
    cases checked
    exact ⟨by omega, wholeValue_writable spoken⟩

theorem attemptTimeValue_notBelow {text : String} {number : Binary64}
    (read : attemptTimeValue text = .ok number) : ¬ number < Binary64.zero := by
  unfold attemptTimeValue at read
  split at read
  · cases read
  · split at read
    · cases read
    · rename_i notBelow
      cases read
      exact notBelow

variable {options changed : SimulateOptions}

theorem SimulateOptions.InRange.set {name value : String} (inRange : options.InRange)
    (accepted : options.set name value = .ok changed) : changed.InRange := by
  unfold SimulateOptions.set at accepted
  split at accepted
  · obtain ⟨number, read, same⟩ := (bind_eq_ok_iff _ _ _).mp accepted
    cases same
    obtain ⟨least, writable⟩ := failuresValue_within read
    exact ⟨least, writable, inRange.notBelow⟩
  · obtain ⟨number, read, same⟩ := (bind_eq_ok_iff _ _ _).mp accepted
    cases same
    exact ⟨inRange.someFailures, inRange.writable, attemptTimeValue_notBelow read⟩
  · obtain ⟨number, -, same⟩ := (bind_eq_ok_iff _ _ _).mp accepted
    cases same
    exact ⟨inRange.someFailures, inRange.writable, inRange.notBelow⟩
  · cases accepted
    exact inRange

theorem SimulateOptions.foldlM_inRange (parsed : Parsed) (names : List String) :
    ∀ options : SimulateOptions, options.InRange →
      names.foldlM (fun options name => (parsed.value? name).elim (.ok options) (options.set name))
        options = .ok changed → changed.InRange := by
  induction names with
  | nil =>
      intro options inRange accepted
      cases accepted
      exact inRange
  | cons name names ih =>
      intro options inRange accepted
      rw [List.foldlM_cons] at accepted
      obtain ⟨next, first, rest⟩ := (bind_eq_ok_iff _ _ _).mp accepted
      refine ih next ?_ rest
      cases given : parsed.value? name with
      | none =>
          rw [given] at first
          cases first
          exact inRange
      | some value =>
          rw [given] at first
          exact inRange.set first

theorem SimulateOptions.ofParsed_inRange {parsed : Parsed}
    (accepted : SimulateOptions.ofParsed parsed = .ok options) : options.InRange :=
  foldlM_inRange parsed parsed.names {} standard_inRange accepted

theorem parseCommand_inRange {name : String} {arguments : List String}
    (parsed : parseCommand name arguments = .ok (.simulate options)) : options.InRange := by
  unfold parseCommand at parsed
  obtain ⟨given, -, rest⟩ := (bind_eq_ok_iff _ _ _).mp parsed
  split at rest
  · cases rest
  · obtain ⟨found, read, others⟩ := (bind_eq_ok_iff _ _ _).mp rest
    obtain ⟨-, -, same⟩ := (bind_eq_ok_iff _ _ _).mp others
    split at same
    · cases same
      exact SimulateOptions.ofParsed_inRange read
    · cases same

variable {surroundings : Surroundings} {config : Option String} {arguments : List String}

theorem parseFromName_inRange {given : Option String}
    (parsed : parseFromName surroundings given arguments = .ok ⟨config, .simulate options⟩) :
    options.InRange := by
  cases arguments with
  | nil => cases parsed
  | cons name arguments =>
      rw [parseFromName] at parsed
      split at parsed
      · obtain ⟨command, read, same⟩ := (map_eq_ok_iff _ _ _).mp parsed
        cases same
        exact parseCommand_inRange read
      · split at parsed
        · obtain ⟨before, -, rest⟩ := (bind_eq_ok_iff _ _ _).mp parsed
          split at rest
          · cases rest
          · obtain ⟨-, -, refused⟩ := (bind_eq_ok_iff _ _ _).mp rest
            cases refused
        · cases parsed

/-- A command line that asks for a preview has passed the checks of its options. -/
theorem parseAll_inRange
    (parsed : parseAll surroundings arguments = .ok ⟨config, .simulate options⟩) :
    options.InRange := by
  unfold parseAll at parsed
  split at parsed
  · cases parsed
  · obtain ⟨before, -, rest⟩ := (bind_eq_ok_iff _ _ _).mp parsed
    split at rest
    · cases rest
    · obtain ⟨given, -, behind⟩ := (bind_eq_ok_iff _ _ _).mp rest
      exact parseFromName_inRange behind

end Reattempt.CommandLine
