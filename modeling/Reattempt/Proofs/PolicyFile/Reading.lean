import Mathlib.Tactic
import Reattempt.PolicyFile
import Reattempt.Proofs.Field.Validation
import Reattempt.Proofs.Settings.Consistency

/-!
# Sections that were read

Each section that was read from a document is within its bounds and without a conflict.
-/

set_option autoImplicit false

namespace Reattempt

structure RetrySection.Valid (retry : RetrySection) : Prop where
  maxRetries_at_least : ∀ retries ∈ retry.maxRetries, -1 ≤ retries
  maxAttempts_at_least : ∀ attempts ∈ retry.maxAttempts, -1 ≤ attempts
  factor_above_one : ∀ backoff ∈ retry.backoff, Binary64.ofInt 1 < backoff.factor
  jitterFactor_within_one : ∀ factor ∈ retry.jitterFactor,
    Binary64.ofInt 0 ≤ factor ∧ factor ≤ Binary64.ofInt 1
  no_conflict : retry.conflict? = none

namespace PolicyFile

open Validation

variable {α : Type}

/-! ## Readers -/

/-- A reader with a bound gives only what is within the bound. -/
theorem plain_bounded_within {reading : Except Fault α} {fault? : α → Option Fault} {value : α}
    (read : Field.plain (Field.bounded reading fault?) = .ok value) : fault? value = none := by
  cases reading with
  | error fault => cases read
  | ok taken =>
      simp only [Field.bounded, bind, Except.bind] at read
      cases found : fault? taken with
      | some fault =>
          rw [found] at read
          cases read
      | none =>
          rw [found] at read
          cases read
          exact found

theorem readOptional_within {read : Value → Except Field.Rejection α} {property : α → Prop}
    (within : ∀ given value, read given = .ok value → property value) (given : Value)
    (stored : Option α) (taken : readOptional read given = .ok stored) :
    ∀ value ∈ stored, property value := by
  intro value member
  cases member
  unfold readOptional at taken
  split at taken
  · cases taken
  · obtain ⟨inner, innerRead, same⟩ := (map_eq_ok_iff _ _ _).mp taken
    cases same
    exact within given value innerRead

theorem ensures_field {property : α → Prop} (entries : Mapping) (name : String) (standard : α)
    (read : Value → Except Field.Rejection α) (byDefault : property standard)
    (within : ∀ given value, read given = .ok value → property value) :
    Ensures (field entries name standard read) property := by
  unfold field
  split
  · exact ensures_pure byDefault
  · exact ensures_settle _ _ _ (within _)

theorem ensures_field_any (entries : Mapping) (name : String) (standard : α)
    (read : Value → Except Field.Rejection α) :
    Ensures (field entries name standard read) fun _ => True :=
  ensures_field entries name standard read trivial (fun _ _ _ => trivial)

theorem ensures_requiredField (entries : Mapping) (name : String) (standIn : α)
    (read : Value → Except Field.Rejection α) :
    Ensures (requiredField entries name standIn read) fun _ => True := by
  unfold requiredField
  split
  · exact ensures_settle_any _ _ _
  · exact ensures_settle_any _ _ _

theorem ensures_record {property : α → Prop} (place : Place) (kind : String) (standIn : α)
    (value : Value) (read : Mapping → Validation α)
    (inner : ∀ entries, Ensures (read entries) property) :
    Ensures (record place kind standIn value read) property := by
  unfold record
  split
  · exact ensures_inside place (inner _)
  · exact ensures_settle _ _ _ (fun _ refused => by cases refused)

theorem ensures_recordField {property : α → Prop} (entries : Mapping) (name kind : String)
    (standIn : α) (read : Mapping → Validation α)
    (inner : ∀ entries, Ensures (read entries) property) :
    Ensures (recordField entries name kind standIn read) fun stored =>
      ∀ value ∈ stored, property value := by
  unfold recordField
  split
  · exact ensures_pure (by simp)
  · exact ensures_pure (by simp)
  · refine ensures_bind (ensures_record _ kind standIn _ read inner) fun value => ?_
    exact ensures_pure (by simp)

theorem ensures_noteStrays (names : List String) (entries : Mapping) :
    Ensures (noteStrays names entries) fun _ => True := by
  unfold noteStrays
  split
  · exact ensures_renounce _ []
  · exact ensures_note _

theorem ensures_readTexts (items : List Value) : ∀ position : Nat,
    Ensures (readTexts position items) fun _ => True := by
  induction items with
  | nil => exact fun position => ensures_pure trivial
  | cons item rest ih =>
      intro position
      refine ensures_bind (ensures_settle_any _ _ _) fun text => ?_
      refine ensures_bind (ih (position + 1)) fun texts => ?_
      exact ensures_pure fun _ _ => trivial

theorem ensures_textsField (entries : Mapping) (name : String) :
    Ensures (textsField entries name) fun _ => True := by
  unfold textsField
  split
  · exact ensures_pure trivial
  · exact ensures_inside _ (ensures_readTexts _ 0)
  · exact ensures_inside _ (ensures_readTexts _ 0)
  · exact ensures_settle_any _ _ _

/-! ## Sections -/

theorem delayFactor_within (given : Value) (factor : Binary64)
    (read : readNumber Settings.delayFactorFault? given = .ok factor) :
    Binary64.ofInt 1 < factor :=
  (Settings.delayFactorFault?_eq_none_iff factor).mp (plain_bounded_within read)

theorem jitterFactor_within (given : Value) (factor : Binary64)
    (read : readNumber Settings.jitterFactorFault? given = .ok factor) :
    Binary64.ofInt 0 ≤ factor ∧ factor ≤ Binary64.ofInt 1 :=
  (Settings.jitterFactorFault?_eq_none_iff factor).mp (plain_bounded_within read)

theorem retries_within (given : Value) (retries : Int)
    (read : readInteger Settings.retriesFault? given = .ok retries) : -1 ≤ retries :=
  (Settings.retriesFault?_eq_none_iff retries).mp (plain_bounded_within read)

theorem standardFactor_above_one : Binary64.ofInt 1 < Binary64.ofInt 2 := by
  decide +kernel

theorem ensures_readBackoff (entries : Mapping) :
    Ensures (readBackoff entries) fun backoff => Binary64.ofInt 1 < backoff.factor := by
  unfold readBackoff
  refine ensures_bind (ensures_requiredField entries "delay" _ _) fun delay => ?_
  refine ensures_bind (ensures_requiredField entries "max_delay" _ _) fun maxDelay => ?_
  refine ensures_bind (ensures_field entries "factor" _ _ standardFactor_above_one
    delayFactor_within) fun factor => ?_
  refine ensures_bind (ensures_noteStrays _ entries) fun _ => ?_
  exact ensures_pure fun _ above _ _ => above

theorem ensures_readDelayRange (entries : Mapping) :
    Ensures (readDelayRange entries) fun _ => True := by
  unfold readDelayRange
  refine ensures_bind (ensures_requiredField entries "min" _ _) fun least => ?_
  refine ensures_bind (ensures_requiredField entries "max" _ _) fun greatest => ?_
  refine ensures_bind (ensures_noteStrays _ entries) fun _ => ?_
  exact ensures_pure fun _ _ _ => trivial

/-- The values of a section that were read one by one are within their bounds. -/
theorem ensures_readSettings (entries : Mapping) :
    Ensures (readSettings entries) fun retry => retry.conflict? = none → retry.Valid := by
  unfold readSettings
  refine ensures_bind (ensures_field entries "max_retries" _ _ (by simp)
    (readOptional_within retries_within)) fun maxRetries => ?_
  refine ensures_bind (ensures_field entries "max_attempts" _ _ (by simp)
    (readOptional_within retries_within)) fun maxAttempts => ?_
  refine ensures_bind (ensures_field_any entries "max_duration" _ _) fun maxDuration => ?_
  refine ensures_bind (ensures_field_any entries "delay" _ _) fun delay => ?_
  refine ensures_bind (ensures_recordField entries "delay_range" _ _ _
    ensures_readDelayRange) fun delayRange => ?_
  refine ensures_bind (ensures_recordField entries "backoff" _ _ _
    ensures_readBackoff) fun backoff => ?_
  refine ensures_bind (ensures_field_any entries "jitter" _ _) fun jitter => ?_
  refine ensures_bind (ensures_field entries "jitter_factor" _ _ (by simp)
    (readOptional_within jitterFactor_within)) fun jitterFactor => ?_
  refine ensures_bind (ensures_textsField entries "abort_on") fun abortOn => ?_
  refine ensures_bind (ensures_noteStrays _ entries) fun _ => ?_
  refine ensures_pure ?_
  intro _ _ within _ above _ _ _ attempts retries noConflict
  exact ⟨retries, attempts, above, within, noConflict⟩

theorem ensures_readSection (entries : Mapping) :
    Ensures (readSection entries) RetrySection.Valid := by
  refine ensures_weaken (ensures_thenCheck (ensures_readSettings entries)) ?_
  rintro retry ⟨valid, passed⟩
  exact valid (by simpa using passed)

theorem standard_valid : ({} : RetrySection).Valid where
  maxRetries_at_least := by simp
  maxAttempts_at_least := by simp
  factor_above_one := by simp
  jitterFactor_within_one := by simp
  no_conflict := rfl

theorem ensures_readDocument (document : Mapping) :
    Ensures (readDocument document) RetrySection.Valid := by
  unfold readDocument
  split
  · refine ensures_bind (ensures_pure standard_valid) fun retry => ?_
    refine ensures_bind (ensures_noteStrays _ document) fun _ => ?_
    exact ensures_pure fun _ valid => valid
  · refine ensures_bind (ensures_record _ _ _ _ _ ensures_readSection) fun retry => ?_
    refine ensures_bind (ensures_noteStrays _ document) fun _ => ?_
    exact ensures_pure fun _ valid => valid

/-- A section that was read from a document is within its bounds and without a conflict. -/
theorem sectionOf_valid {document : Mapping} {retry : RetrySection}
    (accepted : sectionOf document = .ok retry) : retry.Valid := by
  unfold sectionOf at accepted
  split at accepted
  · split at accepted
    · cases accepted
    · cases accepted
    · rename_i finished
      cases accepted
      exact ensures_finish (ensures_readDocument document) finished
  · cases accepted

end PolicyFile
end Reattempt
