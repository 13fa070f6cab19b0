import Reattempt.Decimal.Spoken
import Reattempt.Subject
/-!
# Calling classes

A class can stand where a predicate is expected. Called with what it is asked about, it makes
something of that, and the answer is whether what it made counts as true. A class that can make
nothing of it raises an error instead.
-/
set_option autoImplicit false

namespace Reattempt

namespace Value

/-- What can be gone through in a value: characters, bytes, items or keys. -/
def items? : Value → Option (List Value)
  | .text value => some (value.toList.map fun c => .text (String.singleton c))
  | .bytes value => some (value.map fun byte => .int byte.toNat)
  | .list items => some items
  | .tuple items => some items
  | .mapping entries => some (entries.map Prod.fst)
  | _ => none

/-- The characters that spell a number in text or in plain bytes. -/
def spelling? : Value → Option (List Char)
  | .text value => some value.toList
  | .bytes value =>
      if value.all fun byte => decide (byte < 128) then
        some (value.map fun byte => Char.ofNat byte.toNat)
      else none
  | _ => none

def index? : Value → Option Int
  | .int value => some value
  | .bool value => some (if value then 1 else 0)
  | _ => none

end Value

namespace Construction

def whole? (value : Value) : Option Int :=
  match value with
  | .float number => if number.isFinite then some number.truncate else none
  | value => value.index? <|> value.spelling?.bind (Decimal.spokenWhole? 10)

def number? (value : Value) : Option Binary64 :=
  match value with
  | .float number => some number
  | value =>
      (value.index?.map Binary64.ofInt).filter Binary64.isFinite <|>
        value.spelling?.bind Decimal.spokenNumber?

def withoutParentheses (text : List Char) : List Char :=
  match text with
  | '(' :: rest =>
      if rest.getLast? == some ')' then Text.trimBy Text.isSpace rest.dropLast else text
  | _ => text

/-- The factor in front of an imaginary unit, which may be a sign alone or nothing. -/
def imaginary? (isFirst : Bool) (text : List Char) : Option Binary64 :=
  match text with
  | [] => if isFirst then some (Binary64.ofInt 1) else none
  | ['+'] => some (Binary64.ofInt 1)
  | ['-'] => some (Binary64.ofInt (-1))
  | c :: _ => if isFirst || c == '+' || c == '-' then Decimal.number? text else none

def complexText? (text : List Char) : Option (Binary64 × Binary64) := do
  let spelled := (Text.trimBy Text.isSpace text).map Text.plainDigit
  let body := withoutParentheses (← Decimal.dropUnderscores? Char.isDigit ' ' spelled)
  match Decimal.number? body with
  | some real => some (real, .zero)
  | none =>
      if body.getLast?.any fun c => c == 'j' || c == 'J' then
        let factors := body.dropLast
        (List.range (factors.length + 1)).findSome? fun length => do
          let real ←
            if length = 0 then some Binary64.zero else Decimal.number? (factors.take length)
          let imaginary ← imaginary? (length == 0) (factors.drop length)
          some (real, imaginary)
      else none

/-- Whether a complex number made of a value is not zero. -/
def complex? (value : Value) : Option Bool :=
  match value with
  | .text text =>
      (complexText? text.toList).map fun (real, imaginary) => !(real.isZero && imaginary.isZero)
  | .bytes _ => none
  | value => (number? value).map fun number => !number.isZero

/-- Whether a value is a key with what belongs to it. -/
def isEntry (value : Value) : Bool :=
  match value.items? with
  | some [key, _] => key.isHashable
  | _ => false

/-- Whether there are entries in the mapping made of a value. -/
def mapping? (value : Value) : Option Bool :=
  match value with
  | .mapping entries => some (!entries.isEmpty)
  | value => value.items?.bind fun items =>
      if items.all isEntry then some (!items.isEmpty) else none

def maxBytes : Int := Int.pow 2 40

def isByte (value : Value) : Bool :=
  value.index?.any fun number => decide (0 ≤ number ∧ number < 256)

def bytes? (value : Value) : Option Bool :=
  match value.index?, value with
  | some count, _ =>
      if 0 ≤ count ∧ count < maxBytes then some (decide (0 < count)) else none
  | none, .text _ => none
  | none, value => value.items?.bind fun items =>
      if items.all isByte then some (!items.isEmpty) else none

def text? : Value → Bool
  | .text text => !text.isEmpty
  | .failure failure => !failure.text.isEmpty
  | _ => true

/-- The truth of what a class that is none of errors makes of a value. -/
def fromValue? (path : String) (value : Value) : Option Bool :=
  let items := value.items?
  match path with
  | "bool" => some value.isTrue
  | "int" => (whole? value).map fun number => number != 0
  | "float" => (number? value).map fun number => !number.isZero
  | "complex" => complex? value
  | "str" => some (text? value)
  | "list" | "tuple" => items.map fun items => !items.isEmpty
  | "set" | "frozenset" => items.bind fun items =>
      if items.all Value.isHashable then some (!items.isEmpty) else none
  | "dict" => mapping? value
  | "bytes" | "bytearray" => bytes? value
  | "memoryview" =>
      match value with
      | .bytes bytes => some (!bytes.isEmpty)
      | _ => none
  | "range" => value.index?.map fun count => decide (0 < count)
  | "enumerate" | "reversed" | "zip" => items.map fun _ => true
  | "slice" | "property" | "classmethod" | "staticmethod" | "type" => some true
  | "super" =>
      match value with
      | .className _ => some true
      | _ => none
  | _ => none

def fromOutcome? (path : String) (result : Value) (failure : Option Failure) : Option Bool :=
  match path, result with
  | "slice", _ => some true
  | "property", _ => some true
  | "super", .className name =>
      if failure.all fun failure => name.path == "object" || failure.kind.isA name.path then
        some true
      else none
  | _, _ => none

/-- The errors that are made of more than two arguments or of special ones. -/
def demandingErrors : List String :=
  ["UnicodeDecodeError", "UnicodeEncodeError", "UnicodeTranslateError", "BaseExceptionGroup"]

/-- Whether an error of a class can be made of a subject. The second argument of an error in the
form of a text is a place, which a failure is not. -/
def errorTakes (errorClass : ErrorClass) (subject : Subject) : Bool :=
  !(demandingErrors.any errorClass.isA) &&
    match subject with
    | .outcome _ _ => !errorClass.isA "SyntaxError"
    | _ => true

end Construction

def ClassName.truthOf? (name : ClassName) (subject : Subject) : Option Bool :=
  match name, subject with
  | .error errorClass, subject =>
      if Construction.errorTakes errorClass subject then some true else none
  | .other path, .outcome result failure => Construction.fromOutcome? path result failure
  | .other path, .result result => Construction.fromValue? path result
  | .other path, .failure failure => Construction.fromValue? path (.failure failure)

end Reattempt
