import Mathlib.Tactic
import Reattempt.Proofs.Field.Interruption
import Reattempt.Proofs.PolicyFile.Overrides
import Reattempt.Proofs.Value.Places

/-!
# Roots of documents

A file is refused because of its root if that is no mapping and counts as true. A root that counts
as false is taken for an empty mapping, whatever it is. So the file holds its own mapping, with an
empty section if it has none, or nothing but an empty section (`load_refuses_root_iff`).
-/

set_option autoImplicit false

namespace Reattempt

/-- A value laid over an empty mapping stays what it is. -/
theorem Value.Unrepeated.overlaid_empty {value : Value} (unrepeated : value.Unrepeated) :
    value.overlaid (some (.mapping [])) = value := by
  cases unrepeated with
  | mapping distinct _ => exact congrArg Value.mapping (Mapping.overlay_nil distinct)
  | other noMapping => exact Value.overlaid_of_other noMapping _

namespace PolicyFile

variable {environment : Environment} {files : Files} {directories : List String}
  {given : Option String} {path : String} {document : Value} {entries : Mapping}

def withSection (entries : Mapping) : Mapping :=
  if (entries.get? (.text "retry")).isSome then entries
  else (.text "retry", .mapping []) :: entries

def rootEntries : Value → Mapping
  | .mapping entries => entries
  | _ => []

/-! ## Documents laid over the defaults -/

/-- Apart from the order, nothing but a missing section is added to the mapping of a file. -/
theorem overlay_defaults_perm (unrepeated : (Value.mapping entries).Unrepeated) :
    (defaults.overlay entries).Perm (withSection entries) := by
  have distinct := unrepeated.distinct
  rw [overlay_defaults_eq distinct]
  unfold Mapping.overlaidUnder withSection
  cases found : entries.get? (.text "retry") with
  | none =>
      rw [Mapping.erase_of_lacks (Mapping.get?_eq_none_iff.mp found)]
      exact List.Perm.refl _
  | some given =>
      have unchanged : given.overlaid (some (.mapping [])) = given :=
        (unrepeated.value_of_get? found).overlaid_empty
      simp only [Option.map_some, Option.getD_some, Option.isSome_some, if_true, unchanged]
      exact Mapping.perm_cons_erase distinct found

theorem unrepeated_rootEntries (unrepeated : document.Unrepeated) :
    (Value.mapping (rootEntries document)).Unrepeated := by
  cases document with
  | mapping entries => exact unrepeated
  | _ => exact Value.keyed_nil.unrepeated

/-! ## Roots that are taken, and those that are refused -/

theorem rootMapping_of_refused (single : ¬ document.IsMapping) (counts : document.isTrue = true)
    (path : String) : rootMapping path document = .error (.notMapping path) := by
  unfold rootMapping
  rw [if_pos counts]
  cases document with
  | mapping entries => exact absurd ⟨entries, rfl⟩ single
  | _ => rfl

theorem rootMapping_of_taken (taken : document.IsMapping ∨ document.isTrue = false)
    (path : String) : rootMapping path document = .ok (rootEntries document) := by
  by_cases several : document.IsMapping
  · obtain ⟨entries, rfl⟩ := several
    exact rootMapping_mapping path entries
  · have empty : rootEntries document = [] := by
      cases document with
      | mapping entries => exact absurd ⟨entries, rfl⟩ several
      | _ => rfl
    unfold rootMapping
    rw [if_neg (by simp [taken.resolve_left several]), empty]

theorem effectiveDocument_of_taken (taken : document.IsMapping ∨ document.isTrue = false)
    (path : String) : effectiveDocument path (some (.ok document)) =
      .ok (defaults.overlay (rootEntries document)) := by
  unfold effectiveDocument fileMapping
  simp only [rootMapping_of_taken taken]
  rfl

theorem loadFile_of_taken (taken : document.IsMapping ∨ document.isTrue = false)
    (environment : Environment) (path : String) : loadFile environment path (some (.ok document)) =
      sectionOf (environment.override (defaults.overlay (rootEntries document))) := by
  unfold loadFile
  rw [effectiveDocument_of_taken taken]

theorem loadFile_of_refused (single : ¬ document.IsMapping) (counts : document.isTrue = true)
    (environment : Environment) (path : String) :
    loadFile environment path (some (.ok document)) = .error (.notMapping path) := by
  unfold loadFile effectiveDocument fileMapping
  simp only [rootMapping_of_refused single counts]
  rfl

theorem sectionOf_ne_notMapping (effective : Mapping) (path : String) :
    sectionOf effective ≠ .error (.notMapping path) := by
  unfold sectionOf
  split
  · split <;> exact nofun
  · exact nofun

/-- A file with a document is refused because of its root exactly if that is no mapping and counts
as true. Otherwise its mapping, with an empty section if it has none, is what the environment edits;
the mapping of a document that counts as false is empty. -/
theorem load_refuses_root_iff {bytes : List UInt8} (environment : Environment)
    (chosen : pathIn files directories given = some path)
    (stored : files path = some (documentOfBytes bytes))
    (parsed : documentOfBytes bytes = .ok document) :
    (load environment files directories given = .error (.notMapping path) ↔
      ¬ document.IsMapping ∧ document.isTrue = true) ∧
    (LoadError.notMapping path).toFailure = ⟨ErrorName.configurationError,
      some ("Config file " ++ path ++ " must contain a mapping")⟩ ∧
    (document.IsMapping ∨ document.isTrue = false →
      ∃ effective, effectiveDocument path (files path) = .ok effective ∧
        effective.Perm (withSection (rootEntries document)) ∧
        load environment files directories given =
          (sectionOf (environment.override effective)).map fun retry => ⟨some path, retry⟩) := by
  have unrepeated := unrepeated_rootEntries (unrepeated_of_documentOfBytes parsed)
  rw [stored, parsed, load_of_path chosen, stored, parsed]
  refine ⟨⟨fun refused => ?_, fun ⟨single, counts⟩ => ?_⟩, rfl, fun taken => ?_⟩
  · by_contra apart
    have taken : document.IsMapping ∨ document.isTrue = false := by
      rw [not_and_or, not_not, Bool.not_eq_true] at apart
      exact apart
    rw [loadFile_of_taken taken, Validation.map_eq_error_iff] at refused
    exact sectionOf_ne_notMapping _ path refused
  · rw [loadFile_of_refused single counts]
    rfl
  · refine ⟨_, effectiveDocument_of_taken taken path, overlay_defaults_perm unrepeated, ?_⟩
    rw [loadFile_of_taken taken]

/-! ## Roots written in a file -/

/-- Whether the document counts as true, if it is neither empty nor a mapping. -/
def strayTruth? : Except FileError Value → Option Bool
  | .ok .null => none
  | .ok (.mapping _) => none
  | .ok document => some document.isTrue
  | .error _ => none

theorem stray_of_strayTruth {read : Except FileError Value} {truth : Bool}
    (stray : strayTruth? read = some truth) :
    ∃ document, read = .ok document ∧ document ≠ .null ∧ ¬ document.IsMapping ∧
      document.isTrue = truth := by
  unfold strayTruth? at stray
  split at stray
  · cases stray
  · cases stray
  · rename_i document notNull noMapping
    cases stray
    exact ⟨document, rfl, fun same => notNull same, fun ⟨entries, same⟩ => noMapping entries same,
      rfl⟩
  · cases stray

/-- A word is refused, and a section is taken as it stands. -/
theorem load_refuses_root_of_word :
    let word : Files := fun _ => some (documentOfBytes (bytesOf "x"))
    let settings : Files := fun _ => some (documentOfBytes (bytesOf "retry:\n delay: 5s"))
    let path := PathName.tidy "p.yml"
    load {} word [] (some "p.yml") = .error (.notMapping path) ∧
    ∃ effective, effectiveDocument path (settings path) = .ok effective ∧
      effective.Perm [(.text "retry", .mapping [(.text "delay", .text "5s")])] := by
  intro word settings path
  have readWord : strayTruth? (documentOfBytes (bytesOf "x")) = some true := by decide +kernel
  have readSettings : sectionTexts? (documentOfBytes (bytesOf "retry:\n delay: 5s")) =
      some [("delay", "5s")] := by decide +kernel
  obtain ⟨document, parsed, _, single, counts⟩ := stray_of_strayTruth readWord
  have chosen (files : Files) : pathIn files [] (some "p.yml") = some (PathName.tidy "p.yml") := rfl
  have refused := (load_refuses_root_iff {} (chosen word) rfl parsed).1
  obtain ⟨_, _, taken⟩ := load_refuses_root_iff {} (chosen settings) rfl
    (document_of_sectionTexts readSettings)
  obtain ⟨effective, made, perm, _⟩ := taken (Or.inl ⟨_, rfl⟩)
  exact ⟨refused.mpr ⟨single, counts⟩, effective, made, perm⟩

def LoadsStray (text : String) : Prop :=
  (∃ document, documentOfBytes (bytesOf text) = .ok document ∧ document ≠ .null ∧
    ¬ document.IsMapping) ∧
  ∃ loaded, load {} (fun _ => some (documentOfBytes (bytesOf text))) [] (some "p.yml") = .ok loaded

theorem loadsStray_of_checks {text : String}
    (stray : (strayTruth? (documentOfBytes (bytesOf text))).isSome = true)
    (loads : (load {} (fun _ => some (documentOfBytes (bytesOf text))) []
      (some "p.yml")).toOption.isSome = true) : LoadsStray text := by
  obtain ⟨truth, found⟩ := Option.isSome_iff_exists.mp stray
  obtain ⟨document, parsed, notNull, single, _⟩ := stray_of_strayTruth found
  exact ⟨⟨document, parsed, notNull, single⟩, ok_of_toOption loads⟩

/-- Values that count as false stand at the root for nothing. -/
theorem load_accepts_stray_roots :
    LoadsStray "false" ∧ LoadsStray "0" ∧ LoadsStray "''" ∧ LoadsStray "[]" :=
  ⟨loadsStray_of_checks (by decide +kernel) (by decide +kernel),
    loadsStray_of_checks (by decide +kernel) (by decide +kernel),
    loadsStray_of_checks (by decide +kernel) (by decide +kernel),
    loadsStray_of_checks (by decide +kernel) (by decide +kernel)⟩

end PolicyFile
end Reattempt
