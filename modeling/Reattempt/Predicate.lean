import Reattempt.Construction
import Reattempt.Identity
import Reattempt.Value.Ordering
/-!
# Predicates on attempts

A predicate judges the result and the failure of an attempt: it answers, or it raises a failure of
its own. Showing the predicate may raise another one. Ready-made predicates compare the result or
look at the failure. A class judges by what it makes of them.
-/
set_option autoImplicit false

namespace Reattempt

/-- The label names a predicate in traces. -/
structure Predicate where
  identity : Identity
  label : Option String
  judge : Subject → Except Raised Bool
  /-- What showing the predicate raises. -/
  unshowable : Option Failure := none

namespace Predicate

/-- An answer of something that raises only failures that can be shown. -/
def plainly {α : Type} (answer : Except Failure α) : Except Raised α :=
  answer.mapError fun failure => { failure := failure }

inductive Question where
  /-- Answers with the truth of a fixed value. -/
  | returns (value : Value)
  | raises (failure : Failure)
  | resultEquals (value : Value)
  | resultAbove (value : Value)
  | resultLongerThan (value : Value)
  | resultFalse
  | failureAbsent
  | failureInstance (errorClass : ErrorClass)
  | failureMentions (value : Value)

def contains (text part : List Char) : Bool :=
  match text with
  | [] => part.isEmpty
  | c :: rest => part.isPrefixOf (c :: rest) || contains rest part

def Question.answer (question : Question) (result : Value) (failure : Option Failure) :
    Except Failure Bool :=
  match question with
  | .returns value => .ok value.isTrue
  | .raises raised => .error raised
  | .resultEquals value => .ok (result.equal value)
  | .resultAbove value => result.above value
  | .resultLongerThan value => do
      let size ← result.size?
      Value.above (.int size) value
  | .resultFalse => .ok (!result.isTrue)
  | .failureAbsent => .ok failure.isNone
  | .failureInstance errorClass => .ok (failure.any (·.isInstance errorClass))
  | .failureMentions value =>
      let text := match failure with
        | none => "None"
        | some failure => failure.text
      match value with
      | .text part => .ok (contains text.toList part.toList)
      | value =>
          .error (.typeError (Text.between Text.singleQuote "in <string>" ++
            " requires string as left operand, not " ++ value.kindName))

def ofQuestion (tag : Nat) (label : Option String) (question : Question) : Predicate where
  identity := .own tag
  label := label
  judge subject := plainly (question.answer subject.resultOrNull subject.failure?)

/-- What is raised by something that cannot be called in the way it is. -/
def uncallable : Failure := .typeError "unexpected arguments"

def ofClass (name : ClassName) : Predicate where
  identity := .className name.path
  label := none
  judge subject := (name.truthOf? subject).elim (.error uncallable) .ok

end Predicate
end Reattempt
