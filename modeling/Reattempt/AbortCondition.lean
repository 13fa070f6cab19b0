import Reattempt.Predicate
/-!
# Abort conditions

An abort condition ends a run without further attempts when it matches the outcome of one.
Conditions on the result are not asked about failures, and conditions on the failure not about
results.
-/
set_option autoImplicit false

namespace Reattempt

inductive AbortRule where
  | failureTypes (errorClasses : List ErrorClass)
  | failureIf (predicate : Predicate)
  | outcomeIf (predicate : Predicate)
  | resultIf (predicate : Predicate)
  /-- The expected value, and which objects the results share with it. -/
  | resultEquals (expected : Value) (objects : Objects := .apart)

structure AbortCondition where
  identity : Identity
  rule : AbortRule

structure Asked where
  predicate : Predicate
  subject : Subject

namespace AbortRule

def asks (rule : AbortRule) (result : Value) (failure : Option Failure) : Option Asked :=
  match rule with
  | .failureTypes _ => none
  | .failureIf predicate => failure.map fun failure => ⟨predicate, .failure failure⟩
  | .outcomeIf predicate => some ⟨predicate, .outcome result failure⟩
  | .resultIf predicate => if failure.isNone then some ⟨predicate, .result result⟩ else none
  | .resultEquals _ _ => none

def matchesPlainly (rule : AbortRule) (result : Value) (failure : Option Failure) : Bool :=
  match rule with
  | .failureTypes errorClasses =>
      failure.any fun failure => errorClasses.any fun errorClass => failure.isInstance errorClass
  | .resultEquals expected objects => failure.isNone && result.equalBy objects expected
  | _ => false

def judge (rule : AbortRule) (result : Value) (failure : Option Failure) : Except Raised Bool :=
  match rule.asks result failure with
  | some asked => asked.predicate.judge asked.subject
  | none => .ok (rule.matchesPlainly result failure)

end AbortRule

namespace AbortCondition

def ofPredicate (predicate : Predicate) : AbortCondition :=
  ⟨predicate.identity, .outcomeIf predicate⟩

/-- What showing the condition raises. Only one that is a predicate itself is shown as that. -/
def unshowable (condition : AbortCondition) : Option Failure :=
  match condition.rule with
  | .outcomeIf predicate => predicate.unshowable
  | _ => none

/-- What gets out when the condition raises. An ordinary failure is dropped after the condition and
then the failure are shown. -/
def escaped (condition : AbortCondition) (raised : Raised) : Option Failure :=
  if raised.failure.isOrdinary then condition.unshowable <|> raised.whenShown
  else some raised.failure

/-- Asks the conditions in order until one matches. One that raises does not match, unless something
gets out of it. Also gives the predicates that were asked. -/
def anyMatches (result : Value) (failure : Option Failure) :
    List AbortCondition → Except Failure Bool × List Asked
  | [] => (.ok false, [])
  | condition :: conditions =>
      let asked := (condition.rule.asks result failure).toList
      let continued :=
        let (answer, later) := anyMatches result failure conditions
        (answer, asked ++ later)
      match condition.rule.judge result failure with
      | .ok true => (.ok true, asked)
      | .ok false => continued
      | .error raised =>
          match condition.escaped raised with
          | none => continued
          | some failure => (.error failure, asked)

end AbortCondition
end Reattempt
