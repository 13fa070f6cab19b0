import Reattempt.Failure
/-!
# Values

Operations, policy files and callers hand over values of many kinds. They are plain data: a value
holds no function.
-/
set_option autoImplicit false

namespace Reattempt

/-- A class that can be passed around as a value: one of errors, or another one by its path. -/
inductive ClassName where
  | error (errorClass : ErrorClass)
  | other (path : String)
deriving DecidableEq

def ClassName.path : ClassName → String
  | .error errorClass => errorClass.path
  | .other path => path

/-- A day, a point in time on the clock of some unknown place, or one that is the same everywhere.
-/
inductive Moment where
  | day (number : Nat)
  | clock (microseconds : Int)
  | universal (microseconds : Int)
deriving DecidableEq

inductive Value where
  | null
  | bool (value : Bool)
  | int (value : Int)
  | float (value : Binary64)
  | text (value : String)
  /-- Text with code points in it that are no characters. -/
  | brokenText (codes : List Nat)
  | bytes (value : List UInt8)
  | list (items : List Value)
  | tuple (items : List Value)
  | mapping (entries : List (Value × Value))
  | duration (value : Duration)
  | date (shown : String) (moment : Moment)
  | className (value : ClassName)
  | failure (value : Failure)

instance : Inhabited Value := ⟨.null⟩

namespace Value

/-- Whether a value counts as true: everything but nothing, zeros and what is empty. -/
def isTrue : Value → Bool
  | .null => false
  | .bool value => value
  | .int value => value != 0
  | .float value => !value.isZero
  | .text value => !value.isEmpty
  | .brokenText codes => !codes.isEmpty
  | .bytes value => !value.isEmpty
  | .list items => !items.isEmpty
  | .tuple items => !items.isEmpty
  | .mapping entries => !entries.isEmpty
  | .duration value => value.microseconds != 0
  | .date _ _ => true
  | .className _ => true
  | .failure _ => true

mutual
def isHashable : Value → Bool
  | .list _ => false
  | .mapping _ => false
  | .tuple items => areHashable items
  | _ => true
termination_by structural value => value

def areHashable : List Value → Bool
  | [] => true
  | item :: items => isHashable item && areHashable items
termination_by structural items => items
end

def kindName : Value → String
  | .null => "NoneType"
  | .bool _ => "bool"
  | .int _ => "int"
  | .float _ => "float"
  | .text _ => "str"
  | .brokenText _ => "str"
  | .bytes _ => "bytes"
  | .list _ => "list"
  | .tuple _ => "tuple"
  | .mapping _ => "dict"
  | .duration _ => "datetime.timedelta"
  | .date _ _ => "datetime.date"
  | .className _ => "type"
  | .failure value => value.kind.name

def size? : Value → Except Failure Nat
  | .text value => .ok value.length
  | .brokenText codes => .ok codes.length
  | .bytes value => .ok value.length
  | .list items => .ok items.length
  | .tuple items => .ok items.length
  | .mapping entries => .ok entries.length
  | value =>
      .error (.typeError ("object of type " ++ Text.between Text.singleQuote value.kindName ++
        " has no len()"))

/-- Numbers and truth values, which compare with each other. -/
inductive Numeric where
  | whole (value : Int)
  | real (value : Binary64)

def numeric? : Value → Option Numeric
  | .bool value => some (.whole (if value then 1 else 0))
  | .int value => some (.whole value)
  | .float value => some (.real value)
  | _ => none

def Numeric.worth : Numeric → Option Int
  | .whole value => some (value * Binary64.unit)
  | .real (.finite negative mantissa shift canonical) =>
      some (Binary64.finite negative mantissa shift canonical).quanta
  | .real _ => none

/-- The order of two numbers by exact worth; an infinite one lies beyond every whole number. -/
def Numeric.compare? (a b : Numeric) : Option Ordering :=
  match a, b with
  | .real (.nan _), _ => none
  | _, .real (.nan _) => none
  | .real (.infinite m), .real (.infinite n) =>
      some (if m == n then .eq else if m then .lt else .gt)
  | .real (.infinite m), _ => some (if m then .lt else .gt)
  | _, .real (.infinite n) => some (if n then .gt else .lt)
  | a, b =>
      match a.worth, b.worth with
      | some x, some y => some (compare x y)
      | _, _ => none

end Value
end Reattempt
