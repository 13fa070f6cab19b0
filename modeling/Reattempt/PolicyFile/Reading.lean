import Reattempt.Duration.Suffixed
import Reattempt.Field.Validation
import Reattempt.PolicyFile.Section
import Reattempt.Value.Display
import Reattempt.Value.Mapping
/-!
# Reading a policy file

The document of a policy file is a mapping with one section, `retry`. Its settings are read
leniently, one after another, and every one at fault is reported. Text that is a duration in the
short form is taken as that duration before anything else is tried.
-/
set_option autoImplicit false

namespace Reattempt

/-- Text in the short form is a duration; any other value stays what it is. -/
def Duration.ofValue (value : Value) : Except Duration.RangeError Value :=
  match value with
  | .text text =>
      match Duration.suffixed? text.toList with
      | some (amount, suffix) => (Duration.ofSuffixed amount suffix).map Value.duration
      | none => .ok value
  | value => .ok value

namespace PolicyFile

def readDuration (value : Value) : Except Field.Rejection Duration :=
  match Duration.ofValue value with
  | .error error => .error (.range error)
  | .ok value => Field.duration value

def readNumber (fault? : Binary64 → Option Fault) (value : Value) :
    Except Field.Rejection Binary64 :=
  Field.plain (Field.bounded (Field.number value) fault?)

def readInteger (fault? : Int → Option Fault) (value : Value) : Except Field.Rejection Int :=
  Field.plain (Field.bounded (Field.integer value) fault?)

def readOptional {α : Type} (read : Value → Except Field.Rejection α) :
    Value → Except Field.Rejection (Option α)
  | .null => .ok none
  | value => (read value).map some

def readText : Value → Except Field.Rejection String
  | .text text => .ok text
  | .brokenText codes => .ok (String.ofList (codes.map Char.ofNat))
  | .bytes bytes => (Field.textOfBytes? bytes).elim (.error (.fault .textEncoding)) .ok
  | _ => .error (.fault .textKind)

/-- The name of a whole number as a key. One with too many digits is named by its kind only. -/
def wholeName (number : Int) : String :=
  if Decimal.isWritable number then toString number
  else "<unprintable int object>"

/-- The place of a key. Whole numbers of machine size and truth values count as positions. -/
def placeOf : Value → Place
  | .text text => .field text
  | .bool value => .index (if value then 1 else 0)
  | .int value =>
      if -(Int.pow 2 63) ≤ value ∧ value < Int.pow 2 63 then .index value
      else .field (wholeName value)
  | value => .field value.shown

def strayKey? (names : List String) (key : Value) : Option Problem :=
  match key with
  | .text name => if names.contains name then none else some ⟨[.field name], .unknown⟩
  | key => some ⟨[placeOf key], .keyKind⟩

def isBroken : Value → Bool
  | .brokenText _ => true
  | _ => false

/-- Notes a problem for each key that no setting has. A key of broken text makes up for all
problems. -/
def noteStrays (names : List String) (entries : Mapping) : Validation Unit :=
  if entries.any fun entry => isBroken entry.1 then Validation.renounce [⟨[], .textEncoding⟩]
  else Validation.note (entries.filterMap fun entry => strayKey? names entry.1)

variable {α : Type}

def field (entries : Mapping) (name : String) (standard : α)
    (read : Value → Except Field.Rejection α) : Validation α :=
  match entries.get? (.text name) with
  | none => pure standard
  | some value => Validation.settle (.field name) standard (read value)

def requiredField (entries : Mapping) (name : String) (standIn : α)
    (read : Value → Except Field.Rejection α) : Validation α :=
  match entries.get? (.text name) with
  | none => Validation.settle (.field name) standIn (.error (.fault .missing))
  | some value => Validation.settle (.field name) standIn (read value)

def record (place : Place) (kind : String) (standIn : α) (value : Value)
    (read : Mapping → Validation α) : Validation α :=
  match value with
  | .mapping entries => Validation.inside place (read entries)
  | _ => Validation.settle place standIn (.error (.fault (.recordKind kind)))

def recordField (entries : Mapping) (name kind : String) (standIn : α)
    (read : Mapping → Validation α) : Validation (Option α) :=
  match entries.get? (.text name) with
  | none => pure none
  | some .null => pure none
  | some value => return some (← record (.field name) kind standIn value read)

def readDelayRange (entries : Mapping) : Validation DelayRange := do
  let min ← requiredField entries "min" .zero readDuration
  let max ← requiredField entries "max" .zero readDuration
  noteStrays ["min", "max"] entries
  return ⟨min, max⟩

def readBackoff (entries : Mapping) : Validation Backoff := do
  let delay ← requiredField entries "delay" .zero readDuration
  let maxDelay ← requiredField entries "max_delay" .zero readDuration
  let factor ←
    field entries "factor" (Binary64.ofInt 2) (readNumber Settings.delayFactorFault?)
  noteStrays ["delay", "max_delay", "factor"] entries
  return ⟨delay, maxDelay, factor⟩

def readTexts (position : Nat) : List Value → Validation (List String)
  | [] => pure []
  | value :: rest => do
      let text ← Validation.settle (.index position) "" (readText value)
      let texts ← readTexts (position + 1) rest
      return text :: texts

def textsField (entries : Mapping) (name : String) : Validation (List String) :=
  match entries.get? (.text name) with
  | none => pure []
  | some (.list items) => Validation.inside (.field name) (readTexts 0 items)
  | some (.tuple items) => Validation.inside (.field name) (readTexts 0 items)
  | some _ => Validation.settle (.field name) [] (.error (.fault .listKind))

def sectionNames : List String :=
  ["max_retries", "max_attempts", "max_duration", "delay", "delay_range", "backoff", "jitter",
    "jitter_factor", "abort_on"]

def readSettings (entries : Mapping) : Validation RetrySection := do
  let limit := readOptional (readInteger Settings.retriesFault?)
  let optionalDuration := readOptional readDuration
  let maxRetries ← field entries "max_retries" none limit
  let maxAttempts ← field entries "max_attempts" none limit
  let maxDuration ← field entries "max_duration" none optionalDuration
  let delay ← field entries "delay" none optionalDuration
  let delayRange ←
    recordField entries "delay_range" "DelayRangeSettings" ⟨.zero, .zero⟩ readDelayRange
  let backoff ←
    recordField entries "backoff" "BackoffSettings" { delay := .zero, maxDelay := .zero }
      readBackoff
  let jitter ← field entries "jitter" none optionalDuration
  let jitterFactor ←
    field entries "jitter_factor" none
      (readOptional (readNumber Settings.jitterFactorFault?))
  let abortOn ← textsField entries "abort_on"
  noteStrays sectionNames entries
  return {
    maxRetries := maxRetries
    maxAttempts := maxAttempts
    maxDuration := maxDuration
    delay := delay
    delayRange := delayRange
    backoff := backoff
    jitter := jitter
    jitterFactor := jitterFactor
    abortOn := abortOn }

/-- A section, checked for conflicts if each of its settings is in order. -/
def readSection (entries : Mapping) : Validation RetrySection :=
  Validation.thenCheck (readSettings entries) fun retry =>
    (retry.conflict?.map fun conflict => ⟨[], .conflict conflict⟩).toList

def readDocument (entries : Mapping) : Validation RetrySection := do
  let retry ← match entries.get? (.text "retry") with
    | none => pure {}
    | some value => record (.field "retry") "PolicyFileConfig" {} value readSection
  noteStrays ["retry"] entries
  return retry

end PolicyFile
end Reattempt
