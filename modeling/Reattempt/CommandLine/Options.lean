import Reattempt.Text.Quoted
import Reattempt.Text.Similar
/-!
# Options on a command line

An option has a long name and takes a value or none; one without a value may have a letter too. A
value follows its option or stands behind an equals sign. Two dashes alone end the options.
-/
set_option autoImplicit false

namespace Reattempt.CommandLine

structure OptionForm where
  name : String
  letter : Option Char := none
  takesValue : Bool := true

inductive ValueFault where
  | noSuchPath (path : String)
  | notOfKind (text kind : String)
  | outOfRange (shown range : String)
deriving DecidableEq

inductive UsageError where
  | noArguments
  | noSuchOption (name : String) (similar : List String)
  | missingValue (name : String)
  | unwantedValue (name : String)
  | badValue (name : String) (fault : ValueFault)
  | missingCommand
  | noSuchCommand (name : String) (similar : List String)
  | extraArguments (arguments : List String)
deriving DecidableEq

def ValueFault.message : ValueFault → String
  | .noSuchPath path => "Path " ++ Text.quoted path ++ " does not exist."
  | .notOfKind text kind => Text.quoted text ++ " is not a valid " ++ kind ++ "."
  | .outOfRange shown range => shown ++ " is not in the range " ++ range ++ "."

def hint : List String → String
  | [] => ""
  | [name] => " Did you mean " ++ Text.quoted name ++ "?"
  | names =>
      let sorted := names.mergeSort fun a b => decide (a ≤ b)
      " (Possible options: " ++ ", ".intercalate (sorted.map Text.quoted) ++ ")"

def UsageError.message : UsageError → String
  | .noArguments => ""
  | .noSuchOption name similar => "No such option " ++ Text.quoted name ++ "." ++ hint similar
  | .missingValue name => "Option " ++ Text.quoted name ++ " requires an argument."
  | .unwantedValue name => "Option " ++ Text.quoted name ++ " does not take a value."
  | .badValue name fault =>
      "Invalid value for " ++ Text.between Text.singleQuote name ++ ": " ++ fault.message
  | .missingCommand => "Missing command."
  | .noSuchCommand name similar => "No such command " ++ Text.quoted name ++ "." ++ hint similar
  | .extraArguments arguments =>
      "Got unexpected extra argument" ++ (if arguments.length = 1 then "" else "s") ++ " (" ++
        " ".intercalate arguments ++ ")"

structure Parsed where
  given : List (String × Option String) := []
  others : List String := []

namespace Parsed

def withOption (name : String) (value : Option String) (parsed : Parsed) : Parsed :=
  { parsed with given := (name, value) :: parsed.given }

def withOptions (names : List String) (parsed : Parsed) : Parsed :=
  { parsed with given := names.map (fun name => (name, none)) ++ parsed.given }

def withOther (argument : String) (parsed : Parsed) : Parsed :=
  { parsed with others := argument :: parsed.others }

def has (parsed : Parsed) (name : String) : Bool :=
  parsed.given.any fun entry => entry.1 == name

def value? (parsed : Parsed) (name : String) : Option String :=
  (parsed.given.reverse.lookup name).join

def names (parsed : Parsed) : List String :=
  (parsed.given.map Prod.fst).foldl
    (fun names name => if names.contains name then names else names ++ [name]) []

end Parsed

def splitValue (argument : String) : String × Option String :=
  let (name, rest) := argument.toList.span (· ≠ '=')
  match rest with
  | _ :: value => (String.ofList name, some (String.ofList value))
  | [] => (argument, none)

def isOption (argument : String) : Bool :=
  argument.startsWith "-" && decide (1 < argument.length)

def lettered (forms : List OptionForm) (letters : List Char) :
    Except UsageError (List String) :=
  letters.mapM fun letter =>
    match forms.find? fun form => form.letter == some letter with
    | some form => .ok form.name
    | none => .error (.noSuchOption (String.ofList ['-', letter]) [])

/-- Reads options from arguments. Options may also come behind other arguments if they are mixed;
otherwise the first other argument ends them. -/
def parse (forms : List OptionForm) (areMixed : Bool) : List String → Except UsageError Parsed
  | [] => .ok {}
  | argument :: rest =>
      if argument = "--" then .ok { others := rest }
      else if !isOption argument then
        if areMixed then (parse forms areMixed rest).map (Parsed.withOther argument)
        else .ok { others := argument :: rest }
      else
        let (name, value) := splitValue argument
        match forms.find? fun form => form.name == name with
        | some form =>
            if form.takesValue then
              match value with
              | some value =>
                  (parse forms areMixed rest).map (Parsed.withOption name (some value))
              | none =>
                  match rest with
                  | value :: later =>
                      (parse forms areMixed later).map (Parsed.withOption name (some value))
                  | [] => .error (.missingValue name)
            else if value.isSome then .error (.unwantedValue name)
            else (parse forms areMixed rest).map (Parsed.withOption name none)
        | none =>
            if argument.startsWith "--" then
              .error (.noSuchOption name (Text.similarTo name (forms.map OptionForm.name)))
            else
              match lettered forms (argument.toList.drop 1) with
              | .error error => .error error
              | .ok names => (parse forms areMixed rest).map (Parsed.withOptions names)

end Reattempt.CommandLine
