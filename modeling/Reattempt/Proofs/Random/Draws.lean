import Mathlib.Tactic
import Reattempt.Random.Source
import Reattempt.Proofs.Binary64.Bounds

/-!
# The numbers that a source gives

A source gives one number after another. Generators give numbers from zero up to one, one excluded;
`WithinUnit` says so of all numbers that a source still has to give.
-/

set_option autoImplicit false

namespace Reattempt

namespace RandomSource

variable {ρ : Type} [RandomSource ρ]

def advanced (draws : ℕ) (source : ρ) : ρ := (fun source => (draw source).2)^[draws] source

def number (draws : ℕ) (source : ρ) : Binary64 := (draw (advanced draws source)).1

@[simp] theorem number_zero (source : ρ) : number 0 source = (draw source).1 := rfl

theorem advanced_succ (draws : ℕ) (source : ρ) :
    advanced (draws + 1) source = advanced draws (draw source).2 := rfl

theorem advanced_add (draws more : ℕ) (source : ρ) :
    advanced (draws + more) source = advanced draws (advanced more source) :=
  Function.iterate_add_apply _ draws more source

theorem number_advanced (index draws : ℕ) (source : ρ) :
    number index (advanced draws source) = number (index + draws) source := by
  unfold number
  rw [advanced_add]

def WithinUnit (source : ρ) : Prop :=
  ∀ draws, Binary64.ofInt 0 ≤ number draws source ∧ number draws source < Binary64.ofInt 1

variable {source : ρ}

theorem WithinUnit.advanced (within : WithinUnit source) (draws : ℕ) :
    WithinUnit (advanced draws source) := by
  intro index
  rw [number_advanced]
  exact within (index + draws)

theorem WithinUnit.first (within : WithinUnit source) :
    (draw source).1.isFinite = true ∧ 0 ≤ (draw source).1.value ∧ (draw source).1.value < 1 := by
  obtain ⟨zeroFinite, zeroValue⟩ := Binary64.ofInt_zero
  obtain ⟨oneFinite, oneValue⟩ := Binary64.ofInt_one
  have bounds : Binary64.ofInt 0 ≤ (draw source).1 ∧ (draw source).1 < Binary64.ofInt 1 := within 0
  have finite := Binary64.isFinite_of_between zeroFinite oneFinite bounds.1 bounds.2
  have low := (Binary64.le_iff zeroFinite finite).mp bounds.1
  have high := (Binary64.lt_iff finite oneFinite).mp bounds.2
  rw [zeroValue] at low
  rw [oneValue] at high
  exact ⟨finite, low, high⟩

end RandomSource

/-! ## A generator for each evaluation -/

namespace Generator

variable {γ : Type} [Generator γ]

def advanced (draws : ℕ) (generator : γ) : γ :=
  (fun generator => (next generator).2)^[draws] generator

def number (draws : ℕ) (generator : γ) : Binary64 := (next (advanced draws generator)).1

end Generator

namespace PerEvaluation

variable {γ : Type} [Generator γ]

theorem fresh_eq (source : PerEvaluation γ) :
    RandomSource.fresh source =
      ⟨source.make, source.make source.created, source.created + 1, source.drawn⟩ := rfl

theorem advanced_eq (draws : ℕ) (source : PerEvaluation γ) :
    RandomSource.advanced draws source =
      ⟨source.make, Generator.advanced draws source.current, source.created,
        source.drawn + draws⟩ := by
  induction draws generalizing source with
  | zero => rfl
  | succ draws ih =>
      rw [RandomSource.advanced_succ, ih]
      change (⟨_, _, _, source.drawn + 1 + draws⟩ : PerEvaluation γ) = _
      rw [Nat.add_assoc, Nat.add_comm 1 draws]
      rfl

theorem number_eq (draws : ℕ) (source : PerEvaluation γ) :
    RandomSource.number draws source = Generator.number draws source.current := by
  unfold RandomSource.number
  rw [advanced_eq]
  rfl

end PerEvaluation

namespace RandomSource

/-! ## Numbers given in advance -/

theorem advanced_script (script : Scripted) (draws : ℕ) :
    advanced draws (⟨script⟩ : Shared Scripted) =
      ⟨{ script with position := script.position + draws }⟩ := by
  induction draws generalizing script with
  | zero => rfl
  | succ draws ih =>
      rw [advanced_succ]
      refine (ih { script with position := script.position + 1 }).trans ?_
      simp only [Nat.add_assoc, Nat.add_comm 1 draws]

/-- A script gives numbers of the unit interval if it consists of such numbers. -/
theorem withinUnit_script {script : Scripted} (nonempty : 0 < script.numbers.size)
    (inside : ∀ given ∈ script.numbers,
      Binary64.ofInt 0 ≤ given ∧ given < Binary64.ofInt 1) :
    WithinUnit (⟨script⟩ : Shared Scripted) := by
  intro draws
  have below := Nat.mod_lt (script.position + draws) nonempty
  have given : number draws (⟨script⟩ : Shared Scripted) =
      script.numbers[(script.position + draws) % script.numbers.size] := by
    unfold number
    rw [advanced_script]
    change (script.numbers[(script.position + draws) % script.numbers.size]?).getD .zero = _
    rw [Array.getElem?_eq_getElem below, Option.getD_some]
  rw [given]
  exact inside _ (Array.getElem_mem below)

def halves : Shared Scripted := ⟨{ numbers := #[Binary64.ofRatio 1 2] }⟩

theorem withinUnit_halves : WithinUnit halves := by
  apply withinUnit_script
  · decide
  · intro given included
    rw [Array.mem_singleton.mp included]
    decide +kernel

end RandomSource
end Reattempt
