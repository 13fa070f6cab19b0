import Reattempt.Execution
/-!
# Handing arguments on

The arguments of a call reach the operation through layers that have parameters of their own. A
keyword with the name of a parameter stays behind: the layer takes it, or refuses it if it was given
that parameter already. All other arguments are handed on as they are. What the layer takes becomes
part of the run, whether it is fit for that or not.
-/
set_option autoImplicit false

namespace Reattempt

structure Layer where
  name : String
  /-- The name of the layer with the module that it is from. -/
  fullName : String
  /-- Parameters that the same call gives by name. -/
  named : List String := []
  /-- Parameters that the same call gives by position. -/
  placed : List String := []
  /-- Parameters that are open to keywords. -/
  unset : List String := []

namespace Layer

def refusal (title kind keyword : String) : Failure :=
  .typeError (title ++ "() got multiple values for " ++ kind ++ " " ++
    Text.between Text.singleQuote keyword)

def refusal? (layer : Layer) (keyword : String) : Option Failure :=
  if layer.placed.contains keyword then some (refusal layer.name "argument" keyword) else none

/-- Why the call of the layer is refused, if it is. Names that are given twice come first. -/
def clash? (layer : Layer) (keywords : List String) : Option Failure :=
  match keywords.find? layer.named.contains with
  | some keyword => some (refusal layer.fullName "keyword argument" keyword)
  | none => keywords.findSome? layer.refusal?

def handOn (layer : Layer) (arguments : Arguments) : Except Failure Arguments :=
  match layer.clash? (arguments.keywords.map Prod.fst) with
  | some failure => .error failure
  | none =>
      .ok { arguments with
        keywords := arguments.keywords.filter fun entry => !layer.unset.contains entry.1 }

def taken? (layer : Layer) (arguments : Arguments) (parameter : String) : Option Value :=
  if layer.unset.contains parameter then arguments.keywords.lookup parameter else none

end Layer

/-- How a run is started: by a call that names its operation, or by a call of a decorated operation.
In a direct call some parameters of the run may be given by name. -/
inductive Start where
  | direct (named : List String)
  | decorated

def runParameters : List String := ["is_failure", "engine", "sleep", "clock"]

/-- The layer that starts a run. A decorated operation always names its classifier. -/
def Start.layer (start : Start) (isAsync : Bool) : Layer :=
  let name := if isAsync then "execute_async" else "execute"
  let named :=
    match start with
    | .direct named => named
    | .decorated => ["is_failure"]
  { name := name
    fullName := "recourse.infrastructure.retry." ++ name
    named := named
    placed := ["operation", "config"]
    unset := runParameters.filter fun parameter => !named.contains parameter }

def attemptLayer (isAsync : Bool) : Layer :=
  let name := (if isAsync then "AsyncRetrying" else "Retrying") ++ ".__call__"
  { name := name, fullName := name, placed := ["self", "fn"] }

def Start.handOn (start : Start) (isAsync : Bool) (arguments : Arguments) :
    Except Failure Arguments :=
  ((start.layer isAsync).handOn arguments).bind (attemptLayer isAsync).handOn

/-! ## What is taken -/

/-- What calling a value raises. Only a class can be called. -/
def Value.callFault? : Value → Option Failure
  | .className _ => none
  | value =>
      some (.typeError (Text.between Text.singleQuote value.kindName ++ " object is not callable"))

def Value.engineFault (value : Value) : Failure :=
  let owner :=
    match value with
    | .className name =>
        "type object " ++ Text.between Text.singleQuote name.path
    | value => Text.between Text.singleQuote value.kindName ++ " object"
  ⟨⟨"AttributeError", ["Exception", "BaseException"]⟩,
    some (owner ++ " has no attribute " ++ Text.between Text.singleQuote "evaluate")⟩

def Predicate.ofValue (value : Value) : Predicate :=
  match value, value.callFault? with
  | .className name, _ => .ofClass name
  | _, fault =>
      { identity := .own 0
        label := none
        judge := fun _ => .error (fault.getD Predicate.uncallable) }

def Action.isSleep : Action → Bool
  | .slept _ => true
  | _ => false

namespace RunSetup

variable {ρ κ : Type} [RandomSource ρ] [Clock κ]

/-- The run with the classifier and the engine that the layer takes. Values that count as false
stand for those of every run. -/
def taking (setup : RunSetup) (taken? : String → Option Value) : RunSetup :=
  { setup with
    classifier :=
      match taken? "is_failure" with
      | none => setup.classifier
      | some value => if value.isTrue then some (.ofValue value) else none
    engineFault :=
      match taken? "engine" with
      | none => setup.engineFault
      | some value => if value.isTrue then some value.engineFault else none }

/-- The run with something for its sleep that cannot be called: it stops where it would sleep. -/
def sleepless (setup : RunSetup) (fault : Failure) (clock : κ) (source : ρ) : Execution ρ κ :=
  let execution := { setup with sleepRefusal := fault }.run clock 0 source
  { execution with actions := execution.actions.filter fun action => !action.isSleep }

/-- A run that is started in some way. Nothing happens if its arguments are refused, or if what is
taken for its clock cannot be called. Where a class is taken for the clock or the sleep, the clock
and the number of sleeps that are given here are those that it makes. -/
def call (setup : RunSetup) (way : Start) (isAsync : Bool) (clock : κ) (sleeps : Nat)
    (source : ρ) : Execution ρ κ :=
  let taken? := (way.layer isAsync).taken? setup.arguments
  let refused (failure : Failure) : Execution ρ κ :=
    ⟨.error failure, .disturbed .handover, [], { clock := clock, source := source }⟩
  match way.handOn isAsync setup.arguments with
  | .error failure => refused failure
  | .ok arguments =>
      match (taken? "clock").bind Value.callFault? with
      | some failure => refused failure
      | none =>
          let setup := { setup.taking taken? with arguments := arguments }
          match (taken? "sleep").bind Value.callFault? with
          | some failure => setup.sleepless failure clock source
          | none => setup.run clock sleeps source

end RunSetup

end Reattempt
