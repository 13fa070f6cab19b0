import Reattempt.Field.Duration
/-!
# Collecting problems

A validation reads the fields of a record one after another and notes a problem for each that is at
fault, going on with a stand-in. A duration out of range stops it at once.
-/
set_option autoImplicit false

namespace Reattempt

abbrev Validation := StateT (List Problem) (Except Duration.RangeError)

namespace Validation

variable {α : Type}

def note (problems : List Problem) : Validation Unit :=
  modify fun noted => noted ++ problems

/-- Gives up on everything noted so far and notes other problems instead. -/
def renounce (problems : List Problem) : Validation Unit := set problems

/-- The value that a reading gives, or else the stand-in and a problem at the place. -/
def settle (place : Place) (standIn : α) (reading : Except Field.Rejection α) : Validation α :=
  match reading with
  | .ok value => pure value
  | .error (.fault fault) => do
      note [⟨[place], fault⟩]
      pure standIn
  | .error (.range error) => throw error

/-- A validation of a part: its problems are those of the place. -/
def inside (place : Place) (part : Validation α) : Validation α := fun noted =>
  (part []).map fun (value, problems) => (value, noted ++ problems.map (Problem.within place))

/-- A validation with its own check at the end, made only if nothing was noted before. -/
def thenCheck (part : Validation α) (check : α → List Problem) : Validation α := fun noted =>
  (part []).map fun (value, problems) =>
    (value, noted ++ (if problems.isEmpty then check value else problems))

def finish (part : Validation α) : Except Duration.RangeError (Except (List Problem) α) :=
  (part []).map fun (value, problems) =>
    if problems.isEmpty then .ok value else .error problems

end Validation

namespace Field

variable {α β : Type}

def plain (reading : Except Fault α) : Except Rejection α :=
  match reading with
  | .ok value => .ok value
  | .error fault => .error (.fault fault)

def bounded (reading : Except Fault α) (fault? : α → Option Fault) : Except Fault α := do
  let value ← reading
  match fault? value with
  | none => .ok value
  | some fault => .error fault

end Field
end Reattempt
