import Reattempt.CommandLine.Options
import Reattempt.Decimal.Spoken
import Reattempt.PolicyFile
import Reattempt.Preview
import Reattempt.Random.Twister
/-!
# The command line

There are two commands. One checks the configuration and describes its policy, the other previews
the verdicts of that policy on a run of failing attempts. What is wrong with the command line is
found from left to right, before the configuration is looked at.
-/
set_option autoImplicit false

namespace Reattempt.CommandLine

/-- What a command sees of the world: files, the directories in which a file is looked for, the
environment, how powers are computed, the modules that can be imported, and the generator of a run
without a seed. -/
structure Surroundings where
  files : Files
  directories : List String
  environment : Environment
  power : Power
  modules : ErrorName.Modules := .standard
  unseeded : Twister := .ofSeed 0

inductive Ending where
  | finished
  /-- The configuration is at fault. -/
  | refused (message : String)
  | misused (error : UsageError)
  | raised (failure : Failure)

structure Reply where
  lines : List String := []
  ending : Ending := .finished

namespace Ending

/-- The code with which the program exits; an uncaught failure gives none of its own. -/
def exitCode? : Ending → Option Nat
  | .finished => some 0
  | .refused _ => some 1
  | .misused _ => some 2
  | .raised _ => none

def message? : Ending → Option String
  | .refused message => some message
  | .misused .noArguments => none
  | .misused error => some error.message
  | _ => none

end Ending

def Reply.output (reply : Reply) : String :=
  String.join (reply.lines.map fun line => line ++ "\n")

def helpForm : OptionForm := { name := "--help", takesValue := false }

def mainForms : List OptionForm :=
  [{ name := "--verbose", letter := some 'v', takesValue := false }, { name := "--config" },
    helpForm]

def simulateForms : List OptionForm :=
  [{ name := "--failures" }, { name := "--attempt-time" }, { name := "--seed" }, helpForm]

def commandNames : List String := ["validate", "simulate"]

structure SimulateOptions where
  failures : Int := 5
  attemptTime : Binary64 := .zero
  seed : Option Int := none

def wholeValue (name kind text : String) : Except UsageError Int :=
  match Decimal.spokenWhole? 10 text.toList with
  | some number => .ok number
  | none => .error (.badValue name (.notOfKind text kind))

/-- At least one failure. -/
def failuresValue (text : String) : Except UsageError Int := do
  let number ← wholeValue "--failures" "integer range" text
  if number < 1 then throw (.badValue "--failures" (.outOfRange (toString number) "x>=1"))
  return number

/-- No time below zero; what is not a number is not below. -/
def attemptTimeValue (text : String) : Except UsageError Binary64 :=
  match Decimal.spokenNumber? text.toList with
  | none => .error (.badValue "--attempt-time" (.notOfKind text "float range"))
  | some number =>
      if number < Binary64.zero then
        .error (.badValue "--attempt-time" (.outOfRange (Decimal.quotedText number) "x>=0.0"))
      else .ok number

def SimulateOptions.set (options : SimulateOptions) (name : String) (value : String) :
    Except UsageError SimulateOptions := do
  match name with
  | "--failures" => return { options with failures := ← failuresValue value }
  | "--attempt-time" => return { options with attemptTime := ← attemptTimeValue value }
  | "--seed" => return { options with seed := some (← wholeValue name "integer" value) }
  | _ => return options

/-- The options with all given values, looked at in the order in which they came first. -/
def SimulateOptions.ofParsed (parsed : Parsed) : Except UsageError SimulateOptions :=
  parsed.names.foldlM
    (fun options name => (parsed.value? name).elim (.ok options) (options.set name)) {}

inductive Command where
  | help
  | validate
  | simulate (options : SimulateOptions)

/-- A whole command line: the file to use, if one is named, and the command. -/
structure Invocation where
  config : Option String
  command : Command

/-- The file named in front of the command, which has to exist. -/
def configOf (surroundings : Surroundings) (parsed : Parsed) :
    Except UsageError (Option String) :=
  match parsed.value? "--config" with
  | none => .ok none
  | some path =>
      if !path.isEmpty && (surroundings.files path).isSome then .ok (some path)
      else .error (.badValue "--config" (.noSuchPath path))

def checkOthers (parsed : Parsed) : Except UsageError Unit :=
  if parsed.others.isEmpty then .ok () else .error (.extraArguments parsed.others)

def parseCommand (name : String) (arguments : List String) : Except UsageError Command := do
  let forms := if name = "simulate" then simulateForms else [helpForm]
  let parsed ← parse forms true arguments
  if parsed.has "--help" then return .help
  let options ← SimulateOptions.ofParsed parsed
  checkOthers parsed
  return if name = "simulate" then .simulate options else .validate

/-- The arguments from the name of the command on. A name that looks like an option is taken for one
before it is found to be no command. -/
def parseFromName (surroundings : Surroundings) (config : Option String) :
    List String → Except UsageError Invocation
  | [] => .error .missingCommand
  | name :: arguments =>
      if commandNames.contains name then
        (parseCommand name arguments).map fun command => ⟨config, command⟩
      else do
        if !name.isEmpty && !(name.toList.head?.any Char.isAlphanum) then
          let parsed ← parse mainForms false (name :: arguments)
          if parsed.has "--help" then return ⟨config, .help⟩
          let _ ← configOf surroundings parsed
        throw (.noSuchCommand name (Text.similarTo name commandNames))

def parseAll (surroundings : Surroundings) (arguments : List String) :
    Except UsageError Invocation := do
  if arguments.isEmpty then throw .noArguments
  let parsed ← parse mainForms false arguments
  if parsed.has "--help" then return ⟨none, .help⟩
  let config ← configOf surroundings parsed
  parseFromName surroundings config parsed.others

/-- How a failure ends a command: errors in the configuration are expected. -/
def Ending.ofFailure (failure : Failure) : Ending :=
  if failure.isInstance ErrorName.configurationError then .refused failure.text
  else .raised failure

def loadPolicy (surroundings : Surroundings) (config : Option String) :
    Except Failure Policy :=
  match PolicyFile.load surroundings.environment surroundings.files surroundings.directories
      config with
  | .error error => .error error.toFailure
  | .ok loaded =>
      match loaded.retry.toPolicy 0 surroundings.modules with
      | .error error => .error error.toFailure
      | .ok policy => .ok policy

def validate (policy : Policy) : Reply :=
  match policy.description with
  | .error error => { ending := .raised (Failure.ofRangeError error) }
  | .ok lines => { lines := lines ++ ["", "Configuration is valid"] }

def rule : String := String.ofList (List.replicate 40 '=')

def verdictLines (number : Nat) : List Verdict → List String
  | [] => []
  | verdict :: verdicts =>
      ("Attempt " ++ toString number ++ ": " ++
        (match verdict with
        | .retry delay => "retry in " ++ Decimal.placesText 3 delay.toSeconds ++ "s"
        | _ => verdict.name)) :: verdictLines (number + 1) verdicts

def stillRetrying (verdicts : List Verdict) : List String :=
  if verdicts.getLast?.any Verdict.shouldRetry then
    ["Still retrying after " ++ toString verdicts.length ++ " simulated failures"]
  else []

def Surroundings.generator (surroundings : Surroundings) (options : SimulateOptions) : Twister :=
  (options.seed.map Twister.ofSeed).getD surroundings.unseeded

/-- Prints nothing if the preview raises. -/
def simulate (surroundings : Surroundings) (policy : Policy) (options : SimulateOptions) : Reply :=
  let preview := Preview.simulate policy surroundings.power options.failures.toNat
    (Duration.ofSeconds options.attemptTime) (Shared.mk (surroundings.generator options))
  match preview.verdicts with
  | .error failure => { ending := .raised failure }
  | .ok verdicts =>
      { lines := rule :: verdictLines 1 verdicts ++ rule :: stillRetrying verdicts }

def helpLines : List String :=
  ["Options: --verbose, --config PATH", "Commands: validate, simulate",
    "Options of simulate: --failures INTEGER, --attempt-time SECONDS, --seed INTEGER"]

def perform (surroundings : Surroundings) (invocation : Invocation) : Reply :=
  let withPolicy (reply : Policy → Reply) : Reply :=
    match loadPolicy surroundings invocation.config with
    | .error failure => { ending := .ofFailure failure }
    | .ok policy => reply policy
  match invocation.command with
  | .help => { lines := helpLines }
  | .validate => withPolicy validate
  | .simulate options => withPolicy fun policy => simulate surroundings policy options

def run (surroundings : Surroundings) (arguments : List String) : Reply :=
  match parseAll surroundings arguments with
  | .error error => { ending := .misused error }
  | .ok invocation => perform surroundings invocation

end Reattempt.CommandLine
