import Reattempt.ErrorName.Catalogue
/-!
# Names of error classes

A policy file names the error classes that end a run: a built-in class by its bare name, another one
by its module, a dot and its name. The module is what stands before the last dot. It is imported,
and that may raise whatever importing raises.
-/
set_option autoImplicit false

namespace Reattempt.ErrorName

inductive Fault where
  | unknown (name : String)
  | notError (name : String)
  /-- Importing the module raised something other than that it or the name is missing. -/
  | raised (failure : Failure)
deriving DecidableEq

def Fault.message : Fault → String
  | .unknown name => "Unknown exception type in abort_on: " ++ name
  | .notError name => "abort_on entry is not an exception type: " ++ name
  | .raised failure => failure.text

def split (name : String) : String × String :=
  let (last, rest) := name.toList.reverse.span (· ≠ '.')
  (String.ofList (rest.drop 1).reverse, String.ofList last.reverse)

/-- What a name stands for. Nothing before the last dot means a built-in name. -/
def lookup (name : String) (modules : Modules) : Except Failure Entry :=
  let (moduleName, last) := split name
  if moduleName.isEmpty then Modules.offer "builtins" builtin? last
  else (modules.load moduleName).bind fun offered => offered last

def isMissing (failure : Failure) : Bool :=
  failure.kind.isA "ImportError" || failure.kind.isA "AttributeError"

def resolve (name : String) (modules : Modules := .standard) : Except Fault ErrorClass :=
  match lookup name modules with
  | .ok (.error errorClass) =>
      if errorClass.isA "BaseException" then .ok errorClass else .error (.notError name)
  | .ok .other => .error (.notError name)
  | .error failure => .error (if isMissing failure then .unknown name else .raised failure)

/-- The error classes of names, up to the first name without one. -/
def resolveAll (modules : Modules) : List String → Except Fault (List ErrorClass)
  | [] => .ok []
  | name :: names => do
      let errorClass ← resolve name modules
      let errorClasses ← resolveAll modules names
      return errorClass :: errorClasses

end Reattempt.ErrorName
