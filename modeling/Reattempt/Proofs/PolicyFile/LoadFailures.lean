import Mathlib.Tactic
import Reattempt.PolicyFile
import Reattempt.Proofs.Duration.Overflow
import Reattempt.Proofs.Field.Interruption

/-!
# Failures of loading

A file that gives no section is reported as a failure of the configuration, with five exceptions:
bytes that are no text, collections too deep inside each other for the room that is left for calls,
a value that raises something when it is made, a key at the root that is no text, and a duration out
of range (`load_escapes_iff`).
-/

set_option autoImplicit false

namespace Reattempt

/-- What stands at a path: something that cannot be read as a file, such as a directory, or the
bytes of a file. -/
inductive StoredFile where
  | unreadable
  | content (bytes : List UInt8)

def StoredFile.document (room : Nat) : StoredFile → Except FileError Value
  | .unreadable => .error .unreadable
  | .content bytes => documentOfBytes bytes room

namespace PolicyFile

open Validation

variable {α : Type}

/-! ## Durations out of range -/

/-- A duration can be made out in the value, but it is out of range. -/
def OutOfRange (value : Value) : Prop := ∃ error, readDuration value = .error (.range error)

def HoldsOutOfRange (entries : Mapping) (names : List String) : Prop :=
  ∃ name ∈ names, ∃ value, entries.get? (.text name) = some value ∧ OutOfRange value

def SectionOutOfRange (retry : Mapping) : Prop :=
  HoldsOutOfRange retry ["max_duration", "delay", "jitter"] ∨
  (∃ entries, retry.get? (.text "delay_range") = some (.mapping entries) ∧
    HoldsOutOfRange entries ["min", "max"]) ∨
  ∃ entries, retry.get? (.text "backoff") = some (.mapping entries) ∧
    HoldsOutOfRange entries ["delay", "max_delay"]

/-! ## When the reading of a section stops -/

variable {room : Nat}

/-- The ways in which the load of a file raises something that does not count as an error of the
configuration, with the class of what is raised. -/
inductive Escapes (environment : Environment) (room : Nat) (path : String) :
    Option StoredFile → ErrorClass → Prop
  | undecodable {bytes : List UInt8} (broken : Field.textOfBytes? bytes = none) :
      Escapes environment room path (some (.content bytes)) decodingError
  | tooDeep {bytes : List UInt8} {text : String} (decoded : Field.textOfBytes? bytes = some text)
      (raises : Yaml.load text room = .error (.raised Yaml.endless)) :
      Escapes environment room path (some (.content bytes)) Yaml.endless.kind
  | raised {bytes : List UInt8} {text : String} {failure : Failure}
      (decoded : Field.textOfBytes? bytes = some text)
      (raises : Yaml.load text room = .error (.raised failure)) (shallow : failure ≠ Yaml.endless)
      (foreign : failure.isInstance ErrorName.configurationError = false) :
      Escapes environment room path (some (.content bytes)) failure.kind
  | strayKey {file : StoredFile} {entries : Mapping} {entry : Value × Value}
      (mapped : fileMapping path (file.document room) = .ok entries) (member : entry ∈ entries)
      (stray : keyIsText entry = false) :
      Escapes environment room path (some file) .typeError
  | outOfRange {stored : Option StoredFile} {document retry : Mapping}
      (made : effectiveDocument path (stored.map (StoredFile.document room)) = .ok document)
      (texts : document.all keyIsText = true)
      (given : (environment.override document).get? (.text "retry") = some (.mapping retry))
      (beyond : SectionOutOfRange retry) :
      Escapes environment room path stored .overflowError

def pathIn (files : Files) (directories : List String) (given : Option String) : Option String :=
  (given.map PathName.tidy) <|> search files directories

def readFiles (room : Nat) (stored : String → Option StoredFile) : Files :=
  fun path => (stored path).map (StoredFile.document room)

theorem load_eq (environment : Environment) (files : Files) (directories : List String)
    (given : Option String) :
    load environment files directories given =
      (loadFile environment ((pathIn files directories given).getD "")
        ((pathIn files directories given).bind files)).map
        fun retry => ⟨pathIn files directories given, retry⟩ := by
  have chosen : ((given.map PathName.tidy) <|> search files directories) =
      pathIn files directories given := rfl
  unfold load
  rw [chosen]
  cases pathIn files directories given with
  | none => rfl
  | some path => rfl

end PolicyFile
end Reattempt
