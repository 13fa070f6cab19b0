import Reattempt.Value
import Reattempt.Decimal.Layout
import Reattempt.Decimal.Limit
/-!
# Values in messages

A value is shown so that its kind can be told: text in quotes, lists in brackets, durations with
their days, seconds and microseconds. A whole number that is too long cannot be shown.
-/
set_option autoImplicit false

namespace Reattempt

/-- A duration by its whole days, rounded down, and what they leave; parts that are zero are left
out. -/
def Duration.shown (duration : Duration) : String :=
  let count := duration.microseconds
  let days := count.fdiv Duration.perDay
  let rest := count.fmod Duration.perDay
  let seconds := rest / Duration.perSecond
  let micros := rest % Duration.perSecond
  let part (name : String) (value : Int) : List String :=
    if value = 0 then [] else [name ++ "=" ++ toString value]
  let parts := part "days" days ++ part "seconds" seconds ++ part "microseconds" micros
  "datetime.timedelta(" ++ (if parts.isEmpty then "0" else ", ".intercalate parts) ++ ")"

def Failure.shown (failure : Failure) : String :=
  failure.kind.name ++ "(" ++
    (match failure.detail with
    | none => ""
    | some detail => Text.quoted detail) ++ ")"

def ClassName.shown (name : ClassName) : String :=
  "<class " ++ Text.between Text.singleQuote name.path ++ ">"

namespace Value

def shownLeaf : Value → String
  | .null => "None"
  | .bool value => if value then "True" else "False"
  | .int value => toString value
  | .float value => Decimal.quotedText value
  | .text value => Text.quoted value
  | .brokenText codes => Text.quotedCodes codes
  | .bytes value => Text.quotedBytes value
  | .duration value => value.shown
  | .date shown _ => shown
  | .className value => value.shown
  | .failure value => value.shown
  | _ => ""

mutual
def shown : Value → String
  | .list items => "[" ++ ", ".intercalate (shownItems items) ++ "]"
  | .tuple [] => "()"
  | .tuple [item] => "(" ++ shown item ++ ",)"
  | .tuple items => "(" ++ ", ".intercalate (shownItems items) ++ ")"
  | .mapping entries => "\x7b" ++ ", ".intercalate (shownEntries entries) ++ "\x7d"
  | value => shownLeaf value
termination_by structural value => value

def shownItems : List Value → List String
  | [] => []
  | item :: items => shown item :: shownItems items
termination_by structural items => items

def shownEntries : List (Value × Value) → List String
  | [] => []
  | entry :: entries => shownEntry entry :: shownEntries entries
termination_by structural entries => entries

def shownEntry : Value × Value → String
  | (key, value) => shown key ++ ": " ++ shown value
termination_by structural entry => entry
end

mutual
/-- Whether all whole numbers in a value can be written. -/
def isShowable : Value → Bool
  | .int value => Decimal.isWritable value
  | .list items => areShowable items
  | .tuple items => areShowable items
  | .mapping entries => areShowableEntries entries
  | _ => true
termination_by structural value => value

def areShowable : List Value → Bool
  | [] => true
  | item :: items => isShowable item && areShowable items
termination_by structural items => items

def areShowableEntries : List (Value × Value) → Bool
  | [] => true
  | entry :: entries => isShowableEntry entry && areShowableEntries entries
termination_by structural entries => entries

def isShowableEntry : Value × Value → Bool
  | (key, value) => isShowable key && isShowable value
termination_by structural entry => entry
end

end Value
end Reattempt
