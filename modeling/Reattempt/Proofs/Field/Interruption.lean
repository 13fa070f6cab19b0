import Mathlib.Tactic
import Reattempt.Proofs.Duration.Overflow
import Reattempt.Proofs.Field.Validation

/-!
# When validations stop

A fault of a field is noted, and only a duration out of range stops a validation. `StopsIf` says
when that happens; it passes from the parts of a validation to the whole.
-/

set_option autoImplicit false

namespace Reattempt.Validation

variable {α β : Type}

/-- A validation is stopped exactly under a condition, whatever was noted before, and then by an
overflow. -/
structure StopsIf (part : Validation α) (condition : Prop) : Prop where
  stops_iff : ∀ noted, (∃ error, part noted = .error error) ↔ condition
  overflows : ∀ noted error, part noted = .error error → error.IsOverflow

theorem StopsIf.congr {part : Validation α} {condition other : Prop}
    (stops : StopsIf part condition) (same : condition ↔ other) : StopsIf part other :=
  ⟨fun noted => (stops.stops_iff noted).trans same, stops.overflows⟩

theorem map_eq_error_iff {ε γ δ : Type} (first : Except ε γ) (f : γ → δ) (error : ε) :
    first.map f = .error error ↔ first = .error error := by
  cases first with
  | error found => simp [Except.map]
  | ok value => simp [Except.map]

/-- A validation that only changes what another one gives stops whenever the other one does. -/
theorem StopsIf.map {part : Validation α} {condition : Prop} (stops : StopsIf part condition)
    {whole : Validation β} (f : List Problem → α × List Problem → β × List Problem)
    (same : ∀ noted, whole noted = (part []).map (f noted)) : StopsIf whole condition := by
  refine ⟨fun noted => ?_, fun noted error stopped => ?_⟩
  · simp only [same, map_eq_error_iff]
    exact stops.stops_iff []
  · rw [same, map_eq_error_iff] at stopped
    exact stops.overflows [] error stopped

end Reattempt.Validation
