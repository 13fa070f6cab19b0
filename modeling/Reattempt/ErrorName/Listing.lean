import Reattempt.ErrorClass
/-!
# Listings of names

A module offers names. Some of them stand for error classes, the others for something else.
-/
set_option autoImplicit false

namespace Reattempt.ErrorName

inductive Entry where
  | error (errorClass : ErrorClass)
  | other
deriving DecidableEq

structure Listing where
  errors : List (String × ErrorClass) := []
  others : List String := []

def below (path : String) (ancestors : List String) : ErrorClass :=
  ⟨path, ancestors ++ ["Exception", "BaseException"]⟩

def everywhere : List String :=
  ["__annotations__", "__class__", "__delattr__", "__dict__", "__dir__", "__doc__", "__eq__",
    "__format__", "__ge__", "__getattribute__", "__getstate__", "__gt__", "__hash__", "__init__",
    "__init_subclass__", "__le__", "__loader__", "__lt__", "__name__", "__ne__", "__new__",
    "__package__", "__reduce__", "__reduce_ex__", "__repr__", "__setattr__", "__sizeof__",
    "__spec__", "__str__", "__subclasshook__"]

def words (lines : List String) : List String := lines.flatMap fun line => line.splitOn " "

/-- The class at a path. One whose only ancestor is given as the root of all errors is not
ordinary. -/
def classAt (path : String) (ancestors : List String) : ErrorClass :=
  match ErrorClass.builtin? path, ancestors with
  | some errorClass, _ => errorClass
  | none, ["BaseException"] => ⟨path, ["BaseException"]⟩
  | none, ancestors => below path ancestors

/-- A line of a listing: a name, the path of its class and what that stands below. -/
def errorOfLine (line : String) : String × ErrorClass :=
  match line.splitOn " " with
  | name :: path :: ancestors => (name, classAt path ancestors)
  | _ => (line, below line [])

def listing (errors others : List String) : Listing := ⟨errors.map errorOfLine, words others⟩

/-- A listing from the error classes of a module and from lines about second names. -/
def errorsOf (moduleName : String) (names aliases : List String) : Listing :=
  let own := (words names).map fun name => (name, below (moduleName ++ "." ++ name) [])
  { errors := own ++ aliases.map errorOfLine }

def Listing.find? (listing : Listing) (name : String) : Option Entry :=
  match listing.errors.lookup name with
  | some errorClass => some (.error errorClass)
  | none => if (listing.others ++ everywhere).contains name then some .other else none

end Reattempt.ErrorName
