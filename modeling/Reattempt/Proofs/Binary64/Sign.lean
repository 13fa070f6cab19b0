import Mathlib.Tactic
import Reattempt.Duration

/-!
# Signs of numbers and durations

A number keeps the sign that it is rounded with, so products of numbers that are not negative are
not negative. Seconds that are not below zero are therefore converted into durations that are not
below zero either.
-/

set_option autoImplicit false

namespace Reattempt

namespace Binary64

theorem isNegative_pack (negative : Bool) (mantissa shift : Nat) :
    (pack negative mantissa shift).isNegative = negative := by
  unfold pack
  dsimp only
  split <;> split <;> rfl

theorem isNegative_ofQuanta (negative : Bool) (numerator denominator : Nat) :
    (ofQuanta negative numerator denominator).isNegative = negative :=
  isNegative_pack negative _ _

theorem isNegative_ofInt_natCast (count : Nat) : (ofInt count).isNegative = false := by
  rw [ofInt, ofRatio, isNegative_ofQuanta]
  exact decide_eq_false (by omega)

theorem quanta_nonneg {number : Binary64} (positive : number.isNegative = false) :
    0 ≤ number.quanta := by
  cases number with
  | nan => exact le_refl 0
  | infinite negative => exact le_refl 0
  | finite negative mantissa shift canonical =>
      cases positive
      exact Int.natCast_nonneg _

theorem quanta_ofQuanta_nonneg (numerator denominator : Nat) :
    0 ≤ (ofQuanta false numerator denominator).quanta :=
  quanta_nonneg (isNegative_ofQuanta false numerator denominator)

theorem nearestEven_zero (denominator : Nat) : nearestEven 0 denominator = 0 := by
  simp only [nearestEven, Nat.zero_div, Nat.zero_mod]
  split
  · rfl
  · split
    · omega
    · rfl

/-- The worth of zero does not depend on the sign. -/
theorem quanta_ofQuanta_zero (negative : Bool) (denominator : Nat) :
    (ofQuanta negative 0 denominator).quanta = 0 := by
  have small : 0 / denominator < Nat.pow 2 53 := by simp
  have notCarried : ¬ (0 : Nat) = Nat.pow 2 53 := by decide
  rw [ofQuanta]
  simp only [if_pos small, nearestEven_zero, pack, if_neg notCarried, dif_pos canonical_zero,
    quanta]
  cases negative <;> simp

/-- A product is not negative if one factor is not negative and the other one is zero or not
negative either. -/
theorem quanta_mul_nonneg {a b : Binary64} (first : a.isNegative = false ∨ a.quanta = 0)
    (second : b.isNegative = false) : 0 ≤ (a * b).quanta := by
  change 0 ≤ (mul a b).quanta
  cases a with
  | nan => exact le_refl 0
  | infinite m =>
      cases b with
      | nan => exact le_refl 0
      | infinite n => exact le_refl 0
      | finite n mantissa shift canonical =>
          simp only [mul]
          split <;> exact le_refl 0
  | finite m mantissa shift canonical =>
      cases b with
      | nan => exact le_refl 0
      | infinite n =>
          simp only [mul]
          split <;> exact le_refl 0
      | finite n mantissa' shift' canonical' =>
          cases second
          simp only [mul]
          rcases first with positive | nothing
          · cases positive
            exact quanta_ofQuanta_nonneg _ _
          · rw [nothing, Int.natAbs_zero, Nat.zero_mul, quanta_ofQuanta_zero]

theorem quanta_nonneg_of_not_below {negative : Bool} {mantissa shift : Nat}
    {canonical : Canonical mantissa shift}
    (above : ¬ finite negative mantissa shift canonical < .zero) :
    0 ≤ (finite negative mantissa shift canonical).quanta := by
  by_contra below
  refine above ?_
  have exactWorth : (finite negative mantissa shift canonical).worth =
      some (finite negative mantissa shift canonical).quanta := rfl
  have zeroWorth : zero.worth = some 0 := rfl
  change less _ _ = true
  simp only [less, exactWorth, zeroWorth]
  exact decide_eq_true (by omega)

/-- What the whole part leaves of a number that is not below zero: not negative, or a zero. -/
theorem fraction_sign {negative : Bool} {mantissa shift : Nat}
    {canonical : Canonical mantissa shift}
    (above : ¬ finite negative mantissa shift canonical < .zero) :
    (finite negative mantissa shift canonical).fraction.isNegative = false ∨
      (finite negative mantissa shift canonical).fraction.quanta = 0 := by
  have nonnegative := quanta_nonneg_of_not_below above
  cases negative with
  | false => exact Or.inl (isNegative_ofQuanta false _ _)
  | true =>
      right
      have nothing : mantissa * Nat.pow 2 shift = 0 := by
        simp only [quanta, if_true] at nonnegative
        omega
      simp only [fraction, nothing, Nat.zero_mod, quanta_ofQuanta_zero]

end Binary64

namespace Duration

open Binary64

theorem nearestEvenInt_nonneg {numerator : Int} (nonnegative : 0 ≤ numerator)
    (denominator : Nat) : 0 ≤ nearestEvenInt numerator denominator := by
  unfold nearestEvenInt
  split
  · omega
  · exact Int.natCast_nonneg _

theorem ofMicroseconds_eq_ok {count : Int} {duration : Duration}
    (converted : ofMicroseconds count = .ok duration) : duration.microseconds = count := by
  unfold ofMicroseconds at converted
  split at converted
  · cases converted
    rfl
  · dsimp only at converted
    split at converted <;> cases converted

theorem microsecondsOf_nonneg {negative : Bool} {mantissa shift : Nat}
    {canonical : Canonical mantissa shift}
    (above : ¬ finite negative mantissa shift canonical < .zero) :
    0 ≤ microsecondsOf (finite negative mantissa shift canonical) := by
  have wholeNonneg : 0 ≤ (finite negative mantissa shift canonical).truncate :=
    Int.tdiv_nonneg (quanta_nonneg_of_not_below above) (Int.natCast_nonneg _)
  have millionPositive := isNegative_ofInt_natCast perSecond
  have restNonneg := quanta_mul_nonneg (fraction_sign above) millionPositive
  refine nearestEvenInt_nonneg (Int.add_nonneg ?_ restNonneg) _
  exact Int.mul_nonneg (Int.mul_nonneg wholeNonneg (Int.natCast_nonneg _)) (Int.natCast_nonneg _)

/-- Seconds that are not below zero are no duration below zero. -/
theorem ofSeconds_nonneg {seconds : Binary64} {duration : Duration} (above : ¬ seconds < .zero)
    (converted : ofSeconds seconds = .ok duration) : .zero ≤ duration := by
  cases seconds with
  | nan => cases converted
  | infinite negative => cases converted
  | finite negative mantissa shift canonical =>
      have same : duration.microseconds = _ := ofMicroseconds_eq_ok converted
      change (0 : Int) ≤ duration.microseconds
      rw [same]
      exact microsecondsOf_nonneg above

theorem add_eq_ok {a b total : Duration} (added : a.add b = .ok total) :
    total.microseconds = a.microseconds + b.microseconds :=
  ofMicroseconds_eq_ok added

end Duration
end Reattempt
