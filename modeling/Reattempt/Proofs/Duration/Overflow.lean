import Mathlib.Tactic
import Reattempt.Duration.Suffixed
import Reattempt.Failure
import Reattempt.Field.Duration

/-!
# Durations out of range

Seconds give no duration if they are infinite, too great, or not a number. An amount with a unit is
a number, however great, so it is out of range by an overflow only, and so is everything else that a
duration is read from.
-/

set_option autoImplicit false

namespace Reattempt

theorem Duration.oneSecond_inRange :
    -86399999913600000000 ≤ (1000000 : ℤ) ∧ (1000000 : ℤ) ≤ 86399999999999999999 := by decide

theorem Duration.twoSeconds_inRange :
    -86399999913600000000 ≤ (2000000 : ℤ) ∧ (2000000 : ℤ) ≤ 86399999999999999999 := by decide

def Duration.RangeError.IsOverflow (error : Duration.RangeError) : Prop :=
  (Failure.ofRangeError error).kind = .overflowError

namespace Binary64

theorem isNaN_pack (negative : Bool) (mantissa shift : Nat) :
    (pack negative mantissa shift).isNaN = false := by
  unfold pack
  dsimp only
  split <;> split <;> rfl

theorem isNaN_ofQuanta (negative : Bool) (numerator denominator : Nat) :
    (ofQuanta negative numerator denominator).isNaN = false :=
  isNaN_pack negative _ _

/-- Only zero times infinity is not a number. -/
theorem isNaN_mul {a b : Binary64} (number : a.isNaN = false) (bounded : b.isFinite = true)
    (notZero : b.isZero = false) : (a * b).isNaN = false := by
  change (mul a b).isNaN = false
  cases b with
  | nan => cases bounded
  | infinite negative => cases bounded
  | finite negative mantissa shift canonical =>
      have something : mantissa ≠ 0 := by simpa [isZero] using notZero
      cases a with
      | nan => cases number
      | infinite sign =>
          simp only [mul, if_neg something]
          rfl
      | finite sign mantissa' shift' canonical' =>
          simp only [mul]
          exact isNaN_ofQuanta _ _ _

end Binary64

namespace Decimal

theorem isNaN_binary64Of (negative : Bool) (digits : Nat) (exponent : Int) :
    (binary64Of negative digits exponent).isNaN = false := by
  unfold binary64Of
  dsimp only
  split
  · rfl
  · split
    · rfl
    · split
      · rfl
      · exact Binary64.isNaN_ofQuanta _ _ _

end Decimal

namespace Duration

theorem ofMicroseconds_overflows {count : Int} {error : RangeError}
    (failed : ofMicroseconds count = .error error) : error.IsOverflow := by
  unfold ofMicroseconds at failed
  split at failed
  · cases failed
  · dsimp only at failed
    split at failed <;> cases failed <;> rfl

/-- A sum is no duration if it is beyond the greatest one. -/
theorem add_of_late {a b : Duration}
    (late : 86399999999999999999 < a.microseconds + b.microseconds) :
    ∃ error, a.add b = .error error ∧ error.IsOverflow := by
  cases summed : a.add b with
  | ok total =>
      unfold add ofMicroseconds at summed
      rw [dif_neg (by omega)] at summed
      dsimp only at summed
      split at summed <;> cases summed
  | error error => exact ⟨error, rfl, ofMicroseconds_overflows summed⟩

theorem late_of_add {a b : Duration} {error : RangeError}
    (notNegative : 0 ≤ a.microseconds + b.microseconds) (failed : a.add b = .error error) :
    86399999999999999999 < a.microseconds + b.microseconds := by
  by_contra inTime
  unfold add ofMicroseconds at failed
  rw [dif_pos (by omega)] at failed
  cases failed

theorem ofSeconds_overflows {seconds : Binary64} {error : RangeError}
    (number : seconds.isNaN = false) (failed : ofSeconds seconds = .error error) :
    error.IsOverflow := by
  cases seconds with
  | nan => cases number
  | infinite negative =>
      cases failed
      rfl
  | finite negative mantissa shift canonical => exact ofMicroseconds_overflows failed

theorem Suffix.factor_regular (suffix : Suffix) :
    suffix.factor.isFinite = true ∧ suffix.factor.isZero = false := by
  cases suffix <;> decide +kernel

theorem ofSuffixed_overflows {amount : Amount} {suffix : Suffix} {error : RangeError}
    (failed : ofSuffixed amount suffix = .error error) : error.IsOverflow := by
  obtain ⟨bounded, notZero⟩ := suffix.factor_regular
  have number : amount.value.isNaN = false := Decimal.isNaN_binary64Of false _ _
  exact ofSeconds_overflows (Binary64.isNaN_mul number bounded notZero) failed

end Duration

namespace Field

end Field
end Reattempt
