import Reattempt.Failure
import Reattempt.PathName
import Reattempt.PolicyFile.Reading
import Reattempt.Yaml.Document
/-!
# Policy files

A policy is configured by a file, found at a given path or by looking upward from the current
directory, and by two environment variables. The document of the file is laid over an empty `retry`
section, the environment edits that section, and the section is read.
-/
set_option autoImplicit false

namespace Reattempt

inductive FileError where
  | unreadable
  | undecodable
  | raised (failure : Failure)
deriving DecidableEq

/-- What stands at a path: nothing, or a file with its document or the reason why it has none. -/
abbrev Files := String → Option (Except FileError Value)

def documentOfText (text : String) (room : Nat := Yaml.standardRoom) : Except FileError Value :=
  match Yaml.load text room with
  | .ok document => .ok document
  | .error (.malformed _) => .error .unreadable
  | .error (.raised failure) => .error (.raised failure)

def documentOfBytes (bytes : List UInt8) (room : Nat := Yaml.standardRoom) :
    Except FileError Value :=
  match Field.textOfBytes? bytes with
  | some text => documentOfText text room
  | none => .error .undecodable

structure Environment where
  maxRetries : Option String := none
  maxDuration : Option String := none

namespace Environment

def maxRetriesName : String := "RECOURSE_MAX_RETRIES"

def maxDurationName : String := "RECOURSE_MAX_DURATION"

/-- A variable that is set to something. -/
def given (setting : Option String) : Option String := setting.filter fun text => !text.isEmpty

/-- A limit on retries takes the place of both limits of the section. -/
def editLimits (environment : Environment) (retry : Mapping) : Mapping :=
  match given environment.maxRetries with
  | some text =>
      (retry.put (.text "max_retries") (.text text)).erase (.text "max_attempts")
  | none => retry

def editDuration (environment : Environment) (retry : Mapping) : Mapping :=
  match given environment.maxDuration with
  | some text => retry.put (.text "max_duration") (.text text)
  | none => retry

def edit (environment : Environment) (retry : Mapping) : Mapping :=
  environment.editDuration (environment.editLimits retry)

/-- The document with its section edited, if that is a mapping. -/
def override (environment : Environment) (document : Mapping) : Mapping :=
  match document.get? (.text "retry") with
  | some (.mapping retry) => document.put (.text "retry") (.mapping (environment.edit retry))
  | _ => document

end Environment

namespace PolicyFile

inductive LoadError where
  | unreadable (path : String)
  | undecodable
  | raised (failure : Failure)
  | notMapping (path : String)
  | keysNotText
  | range (error : Duration.RangeError)
  | invalid (problems : List Problem)
deriving DecidableEq

def header : String := "Configuration validation failed"

def decodingError : ErrorClass :=
  ⟨"UnicodeDecodeError", ["UnicodeError", "ValueError", "Exception", "BaseException"]⟩

def LoadError.toFailure : LoadError → Failure
  | .unreadable path =>
      ⟨ErrorName.configurationError, some ("Failed to load config from " ++ path)⟩
  | .undecodable => ⟨decodingError, none⟩
  | .raised failure => failure
  | .notMapping path =>
      ⟨ErrorName.configurationError,
        some ("Config file " ++ path ++ " must contain a mapping")⟩
  | .keysNotText => .typeError "keywords must be strings"
  | .range error => .ofRangeError error
  | .invalid problems =>
      ⟨ErrorName.configurationError, some (Problem.report header problems)⟩

/-- The document that every file is laid over. -/
def defaults : Mapping := [(.text "retry", .mapping [])]

/-- The mapping at the root of a document. A document that counts as false is an empty one. -/
def rootMapping (path : String) (document : Value) : Except LoadError Mapping :=
  if document.isTrue then
    match document with
    | .mapping entries => .ok entries
    | _ => .error (.notMapping path)
  else .ok []

def fileMapping (path : String) (file : Except FileError Value) : Except LoadError Mapping :=
  match file with
  | .ok document => rootMapping path document
  | .error .unreadable => .error (.unreadable path)
  | .error .undecodable => .error .undecodable
  | .error (.raised failure) => .error (.raised failure)

def effectiveDocument (path : String) (file : Option (Except FileError Value)) :
    Except LoadError Mapping :=
  match file with
  | none => .ok defaults
  | some file => (fileMapping path file).map defaults.overlay

/-- Whether the key of an entry is a text, with characters in it or not. -/
def keyIsText (entry : Value × Value) : Bool :=
  match entry.1 with
  | .text _ => true
  | .brokenText _ => true
  | _ => false

def sectionOf (document : Mapping) : Except LoadError RetrySection :=
  if document.all keyIsText then
    match Validation.finish (readDocument document) with
    | .error error => .error (.range error)
    | .ok (.error problems) => .error (.invalid problems)
    | .ok (.ok retry) => .ok retry
  else .error .keysNotText

def loadFile (environment : Environment) (path : String)
    (file : Option (Except FileError Value)) : Except LoadError RetrySection :=
  match effectiveDocument path file with
  | .error error => .error error
  | .ok document => sectionOf (environment.override document)

def fileName : String := ".retry-policy.yml"

/-- The nearest file of that name, of those in the given directories. -/
def search (files : Files) (directories : List String) : Option String :=
  (directories.map fun directory => PathName.within directory fileName).find? fun path =>
    (files path).isSome

structure Loaded where
  path : Option String
  retry : RetrySection

/-- Loads the file at a path, or the nearest one if no path is given. -/
def load (environment : Environment) (files : Files) (directories : List String)
    (given : Option String) : Except LoadError Loaded :=
  let path := (given.map PathName.tidy) <|> search files directories
  let retry :=
    match path with
    | some path => loadFile environment path (files path)
    | none => loadFile environment "" none
  retry.map fun retry => ⟨path, retry⟩

end PolicyFile

namespace SectionError

def toFailure : SectionError → Failure
  | .change (.argument fault) => ⟨ErrorName.invalidArgumentError, some fault.message⟩
  | .change (.state conflict) => ⟨ErrorName.invalidStateError, some conflict.message⟩
  | .change (.range error) => .ofRangeError error
  | .name (.raised failure) => failure
  | .name fault => ⟨ErrorName.configurationError, some fault.message⟩
  | .policy problems =>
      ⟨ErrorName.configurationError, some (Problem.report policyHeader problems)⟩
  | .note error => .ofRangeError error

end SectionError

namespace RetrySection

def ofOption {α : Type} (toValue : α → Value) (value? : Option α) : Value :=
  (value?.map toValue).getD .null

def ofDelayRange (range : DelayRange) : Value :=
  .mapping [(.text "min", .duration range.min), (.text "max", .duration range.max)]

def ofBackoff (backoff : Backoff) : Value :=
  .mapping [(.text "delay", .duration backoff.delay),
    (.text "max_delay", .duration backoff.maxDelay), (.text "factor", .float backoff.factor)]

def toValue (retry : RetrySection) : Value :=
  .mapping [
    (.text "max_retries", ofOption .int retry.maxRetries),
    (.text "max_attempts", ofOption .int retry.maxAttempts),
    (.text "max_duration", ofOption .duration retry.maxDuration),
    (.text "delay", ofOption .duration retry.delay),
    (.text "delay_range", ofOption ofDelayRange retry.delayRange),
    (.text "backoff", ofOption ofBackoff retry.backoff),
    (.text "jitter", ofOption .duration retry.jitter),
    (.text "jitter_factor", ofOption .float retry.jitterFactor),
    (.text "abort_on", .list (retry.abortOn.map Value.text))]

def follow : Value → List String → Option Value
  | value, [] => some value
  | .mapping entries, name :: names =>
      (Mapping.get? entries (.text name)).bind fun value => follow value names
  | _, _ :: _ => none

/-- The value under a key, which is a series of names with dots between them. -/
def get? (retry : RetrySection) (key : String) : Option Value :=
  follow (.mapping [(.text "retry", retry.toValue)]) (key.splitOn ".")

end RetrySection
end Reattempt
