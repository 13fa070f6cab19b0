import Reattempt.Binary64
/-!
# Sources of random numbers

A generator gives numbers one after another. A source says which generator is in use: an evaluation
asks it for a fresh one and then draws from it. With `PerEvaluation` each evaluation has a generator
of its own, with `Shared` all of them go on with the same one.
-/
set_option autoImplicit false

namespace Reattempt

class Generator (γ : Type) where
  next : γ → Binary64 × γ

class RandomSource (ρ : Type) where
  fresh : ρ → ρ
  draw : ρ → Binary64 × ρ

/-- Numbers given in advance, starting over at their end. -/
structure Scripted where
  numbers : Array Binary64
  position : Nat := 0

instance : Generator Scripted where
  next script :=
    ((script.numbers[script.position % script.numbers.size]?).getD .zero,
      { script with position := script.position + 1 })

/-- A numbered family of generators, the one in use, how many were made and how many numbers were
drawn in all. -/
structure PerEvaluation (γ : Type) where
  make : Nat → γ
  current : γ
  created : Nat := 0
  drawn : Nat := 0

def PerEvaluation.start {γ : Type} (make : Nat → γ) : PerEvaluation γ :=
  { make := make, current := make 0 }

instance {γ : Type} [Generator γ] : RandomSource (PerEvaluation γ) where
  fresh source :=
    { source with current := source.make source.created, created := source.created + 1 }
  draw source :=
    let (number, next) := Generator.next source.current
    (number, { source with current := next, drawn := source.drawn + 1 })

structure Shared (γ : Type) where
  generator : γ

instance {γ : Type} [Generator γ] : RandomSource (Shared γ) where
  fresh source := source
  draw source :=
    let (number, next) := Generator.next source.generator
    (number, ⟨next⟩)

end Reattempt
