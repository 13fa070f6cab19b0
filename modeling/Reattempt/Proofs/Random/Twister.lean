import Mathlib.Tactic
import Reattempt.Random.Twister
import Reattempt.Proofs.Random.Draws

/-!
# The numbers of the twister

The twister makes a number of 27 bits of one word and 26 of the next, as a fraction of the 53rd
power of two. Binary64 holds that fraction exactly, so it stays below one.
-/

set_option autoImplicit false

namespace Reattempt

namespace Twister

open Binary64 RandomSource

/-- A number of the twister is a fraction with 53 bits. -/
theorem unitInterval_fst (twister : Twister) :
    ∃ numerator : ℕ, numerator < 2 ^ 53 ∧
      (unitInterval twister).1 = ofRatio numerator (Nat.pow 2 53) := by
  have upper := (output twister).1.toNat_lt
  have lower := (output (output twister).2).1.toNat_lt
  refine ⟨((output twister).1 >>> 5).toNat * 67108864 +
    ((output (output twister).2).1 >>> 6).toNat, ?_, rfl⟩
  -- 27 bits of one word stand above 26 of the next
  have upperBits : ((output twister).1 >>> 5).toNat = (output twister).1.toNat / 32 := by
    rw [UInt32.toNat_shiftRight, Nat.shiftRight_eq_div_pow]
    rfl
  have lowerBits : ((output (output twister).2).1 >>> 6).toNat =
      (output (output twister).2).1.toNat / 64 := by
    rw [UInt32.toNat_shiftRight, Nat.shiftRight_eq_div_pow]
    rfl
  omega

theorem unitInterval_bounds (twister : Twister) :
    ofInt 0 ≤ (unitInterval twister).1 ∧ (unitInterval twister).1 < ofInt 1 := by
  obtain ⟨numerator, bits, made⟩ := unitInterval_fst twister
  have bits' : |(numerator : ℤ)| < 2 ^ 53 := by
    rw [abs_of_nonneg (Int.natCast_nonneg numerator)]
    exact_mod_cast bits
  have low : 0 ≤ ((numerator : ℤ) : ℚ) / 2 ^ 53 := by positivity
  have high : ((numerator : ℤ) : ℚ) / 2 ^ 53 < 1 := by
    rw [div_lt_one (by norm_num)]
    exact_mod_cast bits
  have power : ((Nat.pow 2 53 : ℕ) : ℚ) = 2 ^ 53 := by norm_num
  have moderate : |((numerator : ℤ) : ℚ) / (Nat.pow 2 53 : ℕ)| ≤ 2 ^ 100 := by
    rw [power, abs_of_nonneg low]
    exact high.le.trans (by norm_num)
  obtain ⟨finite, worth⟩ := ofRatio_value (by decide) moderate
  have exact := nearest_dyadic bits' (show 53 ≤ 1074 by norm_num)
  rw [power, exact] at worth
  obtain ⟨zeroFinite, zeroValue⟩ := ofInt_zero
  obtain ⟨oneFinite, oneValue⟩ := ofInt_one
  rw [made, le_iff zeroFinite finite, lt_iff finite oneFinite, worth, zeroValue, oneValue]
  exact ⟨low, high⟩

theorem withinUnit (twister : Twister) : WithinUnit (⟨twister⟩ : Shared Twister) :=
  fun draws => unitInterval_bounds (advanced draws (⟨twister⟩ : Shared Twister)).generator

end Twister
end Reattempt
