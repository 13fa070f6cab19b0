import Reattempt.History
import Reattempt.Policy
import Reattempt.Random.Source
/-!
# The delay before the next attempt

The policy's mode gives a base delay, jitter moves it up or down, and what is left of the run's
maximal duration bounds it. All of it is binary64 arithmetic on seconds; the result is rounded to a
duration at the end.
-/
set_option autoImplicit false

namespace Reattempt

/-- Raises a number to a power, in binary64 as the platform does it. -/
abbrev Power := Binary64 → Binary64 → Binary64

namespace Delay

variable {ρ : Type} [RandomSource ρ]

def uniform (low high : Binary64) (source : ρ) : Binary64 × ρ :=
  let (number, source) := RandomSource.draw source
  (low + (high - low) * number, source)

/-- The power of a growth factor, unless the exponent or a finite factor's power is out of range. -/
def raised? (power : Power) (factor : Binary64) (exponent : Int) : Option Binary64 :=
  let exponent := Binary64.ofInt exponent
  if !exponent.isFinite then none
  else
    let raised := power factor exponent
    if factor.isFinite && !raised.isFinite then none else some raised

/-- The growing delay after an attempt: the first retry waits for the unscaled delay. -/
def backoffSeconds (power : Power) (delay cap factor : Binary64) (attemptNumber : Int) :
    Binary64 :=
  ((raised? power factor (max (attemptNumber - 1) 0)).map fun raised =>
    Binary64.smaller (delay * raised) cap).getD cap

def randomSeconds (low high : Binary64) (source : ρ) : Binary64 × ρ :=
  let (number, source) := uniform low high source
  (Binary64.smaller (Binary64.larger number low) high, source)

def baseSeconds (power : Power) (settings : Settings) (attemptNumber : Int) (source : ρ) :
    Binary64 × ρ :=
  match settings.delayMode with
  | .none => (.zero, source)
  | .fixed => (settings.delay.toSeconds, source)
  | .random =>
      randomSeconds (settings.delayMin.getD .zero).toSeconds
        (settings.delayMax.getD .zero).toSeconds source
  | .backoff =>
      (backoffSeconds power settings.delay.toSeconds
        (settings.maxDelay.getD .zero).toSeconds settings.delayFactor attemptNumber, source)

def spread? (settings : Settings) (base : Binary64) : Option Binary64 :=
  match settings.jitterFactor with
  | some factor => some (base * factor)
  | none => settings.jitter.map Duration.toSeconds

def jittered (settings : Settings) (base : Binary64) (source : ρ) : Binary64 × ρ :=
  match spread? settings base with
  | none => (base, source)
  | some spread =>
      let (move, source) := uniform (-spread) spread source
      (Binary64.larger (base + move) .zero, source)

/-- Bounded by what the time elapsed leaves of the maximal duration. -/
def clamped (settings : Settings) (elapsed : Duration) (seconds : Binary64) : Binary64 :=
  match settings.maxDuration with
  | none => seconds
  | some maxDuration =>
      let remaining := maxDuration.toSeconds - elapsed.toSeconds
      Binary64.smaller seconds (Binary64.larger remaining .zero)

/-- The delay in seconds, drawn from the generator in use. -/
def seconds (power : Power) (settings : Settings) (history : History) (source : ρ) :
    Binary64 × ρ :=
  let (base, source) := baseSeconds power settings history.attemptNumber source
  let (moved, source) := jittered settings base source
  (clamped settings history.elapsed moved, source)

/-- The delay, drawn from a fresh generator. -/
def compute (power : Power) (settings : Settings) (history : History) (source : ρ) :
    Except Duration.RangeError Duration × ρ :=
  let (seconds, source) := seconds power settings history (RandomSource.fresh source)
  (Duration.ofSeconds seconds, source)

end Delay
end Reattempt
