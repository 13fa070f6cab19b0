import Mathlib.Tactic
import Reattempt.Delay
import Reattempt.Proofs.Random.Draws

/-!
# The numbers that a delay takes

A delay takes one number if the policy's delays are random and one more if there is jitter
(`seconds_source`), whatever the attempt and however the delay is bounded in the end. It depends on
the source through these numbers alone (`seconds_congr`).
-/

set_option autoImplicit false

namespace Reattempt

namespace Settings

def modeDraws (settings : Settings) : ℕ := if settings.delayMode = .random then 1 else 0

def jitterDraws (settings : Settings) : ℕ :=
  if settings.jitter.isSome ∨ settings.jitterFactor.isSome then 1 else 0

def draws (settings : Settings) : ℕ := settings.modeDraws + settings.jitterDraws

end Settings

namespace Delay

open RandomSource

variable {ρ σ : Type} [RandomSource ρ] [RandomSource σ]
variable {power : Power} {settings : Settings} {history : History} {source : ρ} {other : σ}

theorem spread?_eq_none_iff (base : Binary64) :
    spread? settings base = none ↔ settings.jitter = none ∧ settings.jitterFactor = none := by
  unfold spread?
  cases settings.jitterFactor with
  | none => simp
  | some factor => simp

theorem jitterDraws_eq (settings : Settings) (base : Binary64) :
    settings.jitterDraws = if spread? settings base = none then 0 else 1 := by
  unfold Settings.jitterDraws
  simp only [spread?_eq_none_iff]
  cases settings.jitter <;> cases settings.jitterFactor <;> simp

/-! ## Each mode -/

theorem baseSeconds_of_none (mode : settings.delayMode = .none) (attemptNumber : Int) :
    baseSeconds power settings attemptNumber source = (.zero, source) := by
  simp only [baseSeconds, mode]

theorem baseSeconds_of_fixed (mode : settings.delayMode = .fixed) (attemptNumber : Int) :
    baseSeconds power settings attemptNumber source = (settings.delay.toSeconds, source) := by
  simp only [baseSeconds, mode]

theorem baseSeconds_of_random (mode : settings.delayMode = .random) (attemptNumber : Int) :
    baseSeconds power settings attemptNumber source =
      randomSeconds (settings.delayMin.getD .zero).toSeconds
        (settings.delayMax.getD .zero).toSeconds source := by
  simp only [baseSeconds, mode]

theorem baseSeconds_of_backoff (mode : settings.delayMode = .backoff) (attemptNumber : Int) :
    baseSeconds power settings attemptNumber source =
      (backoffSeconds power settings.delay.toSeconds (settings.maxDelay.getD .zero).toSeconds
        settings.delayFactor attemptNumber, source) := by
  simp only [baseSeconds, mode]

theorem uniform_eq (low high : Binary64) (source : ρ) :
    uniform low high source = (low + (high - low) * number 0 source, advanced 1 source) := rfl

theorem randomSeconds_eq (low high : Binary64) (source : ρ) :
    randomSeconds low high source =
      (Binary64.smaller (Binary64.larger (uniform low high source).1 low) high,
        advanced 1 source) := rfl

theorem jittered_of_none {base : Binary64} (unmoved : spread? settings base = none) :
    jittered settings base source = (base, source) := by
  simp only [jittered, unmoved]

theorem jittered_of_some {base spread : Binary64} (moved : spread? settings base = some spread) :
    jittered settings base source =
      (Binary64.larger (base + (uniform (-spread) spread source).1) .zero, advanced 1 source) := by
  simp only [jittered, moved]
  rfl

/-! ## How many -/

theorem baseSeconds_source (attemptNumber : Int) :
    (baseSeconds power settings attemptNumber source).2 = advanced settings.modeDraws source := by
  unfold Settings.modeDraws
  cases mode : settings.delayMode with
  | none => rw [baseSeconds_of_none mode]; rfl
  | fixed => rw [baseSeconds_of_fixed mode]; rfl
  | random => rw [baseSeconds_of_random mode, randomSeconds_eq]; rfl
  | backoff => rw [baseSeconds_of_backoff mode]; rfl

theorem jittered_source (base : Binary64) :
    (jittered settings base source).2 = advanced settings.jitterDraws source := by
  rw [jitterDraws_eq settings base]
  cases moved : spread? settings base with
  | none => rw [jittered_of_none moved]; rfl
  | some spread => rw [jittered_of_some moved]; rfl

theorem seconds_source :
    (seconds power settings history source).2 = advanced settings.draws source := by
  unfold seconds Settings.draws
  dsimp only
  rw [jittered_source, baseSeconds_source, Nat.add_comm, advanced_add]

theorem compute_source :
    (compute power settings history source).2 = advanced settings.draws (fresh source) :=
  seconds_source

/-! ## Which -/

theorem baseSeconds_congr (attemptNumber : Int)
    (same : ∀ index < settings.modeDraws, number index source = number index other) :
    (baseSeconds power settings attemptNumber source).1 =
      (baseSeconds power settings attemptNumber other).1 := by
  unfold Settings.modeDraws at same
  cases mode : settings.delayMode with
  | none => rw [baseSeconds_of_none mode, baseSeconds_of_none mode]
  | fixed => rw [baseSeconds_of_fixed mode, baseSeconds_of_fixed mode]
  | backoff => rw [baseSeconds_of_backoff mode, baseSeconds_of_backoff mode]
  | random =>
      rw [if_pos mode] at same
      rw [baseSeconds_of_random mode, baseSeconds_of_random mode, randomSeconds_eq,
        randomSeconds_eq, uniform_eq, uniform_eq, same 0 Nat.zero_lt_one]

theorem jittered_congr (base : Binary64)
    (same : ∀ index < settings.jitterDraws, number index source = number index other) :
    (jittered settings base source).1 = (jittered settings base other).1 := by
  rw [jitterDraws_eq settings base] at same
  cases moved : spread? settings base with
  | none => rw [jittered_of_none moved, jittered_of_none moved]
  | some spread =>
      have some : ¬ spread? settings base = none := by simp [moved]
      rw [if_neg some] at same
      rw [jittered_of_some moved, jittered_of_some moved, uniform_eq, uniform_eq,
        same 0 Nat.zero_lt_one]

/-- Sources that start with the same numbers give the same delay. -/
theorem seconds_congr
    (same : ∀ index < settings.draws, number index source = number index other) :
    (seconds power settings history source).1 = (seconds power settings history other).1 := by
  unfold Settings.draws at same
  have base : (baseSeconds power settings history.attemptNumber source).1 =
      (baseSeconds power settings history.attemptNumber other).1 := by
    apply baseSeconds_congr
    intro index below
    exact same index (by omega)
  have moved : ∀ index < settings.jitterDraws,
      number index (advanced settings.modeDraws source) =
        number index (advanced settings.modeDraws other) := by
    intro index below
    rw [number_advanced, number_advanced]
    exact same _ (by omega)
  unfold seconds
  dsimp only
  rw [base, baseSeconds_source, baseSeconds_source, jittered_congr _ moved]

theorem compute_congr (same : ∀ index < settings.draws,
      number index (fresh source) = number index (fresh other)) :
    (compute power settings history source).1 = (compute power settings history other).1 := by
  unfold compute
  dsimp only
  rw [seconds_congr same]

end Delay
end Reattempt
