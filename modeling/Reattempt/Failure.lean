import Reattempt.Duration
import Reattempt.ErrorClass
import Reattempt.Text.Quoted
/-!
# Failures

A failure is an error that was raised: its class and the text it was raised with, if any. Showing a
failure runs code of its class, which may raise another one.
-/
set_option autoImplicit false

namespace Reattempt

structure Failure where
  kind : ErrorClass
  detail : Option String
deriving DecidableEq

namespace Failure

/-- What a failure says. One for a missing key quotes the key. -/
def text (failure : Failure) : String :=
  match failure.detail with
  | none => ""
  | some detail => if failure.kind.isA "KeyError" then Text.quoted detail else detail

def isInstance (failure : Failure) (errorClass : ErrorClass) : Bool :=
  failure.kind.isA errorClass.path

def isOrdinary (failure : Failure) : Bool := failure.kind.isOrdinary

def typeError (detail : String) : Failure := ⟨.typeError, some detail⟩

def valueError (detail : String) : Failure := ⟨.valueError, some detail⟩

/-- Not-a-number and a number too long to be written are unsuitable values; everything else out of
range is an overflow. -/
def ofRangeError (error : Duration.RangeError) : Failure :=
  match error with
  | .notANumber => ⟨.valueError, some error.message⟩
  | .digits => ⟨.valueError, some error.message⟩
  | _ => ⟨.overflowError, some error.message⟩

end Failure

/-- A failure as it is raised, with what is raised instead where the failure is to be shown, if that
cannot be done. -/
structure Raised where
  failure : Failure
  whenShown : Option Failure := none
deriving DecidableEq

instance : Coe Failure Raised := ⟨fun failure => { failure := failure }⟩

instance : Coe (Option Failure) (Option Raised) :=
  ⟨Option.map fun failure => { failure := failure }⟩

/-- What gets out of a place that shows ordinary failures and drops them, if anything does. -/
def Raised.escaped (raised : Raised) : Option Failure :=
  if raised.failure.isOrdinary then raised.whenShown else some raised.failure

end Reattempt
