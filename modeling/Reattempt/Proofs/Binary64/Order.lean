import Mathlib.Tactic
import Reattempt.Proofs.Binary64.Bounds
import Reattempt.Proofs.Duration.Conversion
import Reattempt.Proofs.Duration.Overflow

/-!
# Operations and order

Numbers are ordered by their worth, infinite ones among them. Rounding, the product with a positive
number and the lesser of a number and a bound keep this order, also where results become infinite.
-/

set_option autoImplicit false

namespace Reattempt

namespace Binary64

variable {a b x y : Binary64}

theorem le_iff_worth : a ≤ b ↔ ∃ m n, a.worth = some m ∧ b.worth = some n ∧ m ≤ n := by
  change lessOrEqual a b = true ↔ _
  unfold lessOrEqual
  cases first : a.worth with
  | none => simp
  | some m =>
      cases second : b.worth with
      | none => simp
      | some n => simp

theorem lt_iff_worth : a < b ↔ ∃ m n, a.worth = some m ∧ b.worth = some n ∧ m < n := by
  change less a b = true ↔ _
  unfold less
  cases first : a.worth with
  | none => simp
  | some m =>
      cases second : b.worth with
      | none => simp
      | some n => simp

theorem lt_of_lt_le (first : a < x) (second : x ≤ b) : a < b := by
  obtain ⟨m, n, least, middle, below⟩ := lt_iff_worth.mp first
  obtain ⟨k, l, same, most, ordered⟩ := le_iff_worth.mp second
  rw [middle] at same
  cases same
  exact lt_iff_worth.mpr ⟨m, l, least, most, by omega⟩

theorem lt_of_le_lt (first : a ≤ x) (second : x < b) : a < b := by
  obtain ⟨m, n, least, middle, ordered⟩ := le_iff_worth.mp first
  obtain ⟨k, l, same, most, below⟩ := lt_iff_worth.mp second
  rw [middle] at same
  cases same
  exact lt_iff_worth.mpr ⟨m, l, least, most, by omega⟩

/-- The worth of the infinite numbers, without its digits. -/
theorem infinite_worth : ∃ top : ℤ, 0 < top ∧ (infinite false).worth = some top ∧
    (infinite true).worth = some (-top) := by
  have inside := limit_lt
  have positive : (0 : ℤ) < limit := Int.natCast_pos.mpr limit_pos
  exact ⟨Int.pow 2 2100, by omega, rfl, rfl⟩

theorem le_infinite (number : a.isNaN = false) : a ≤ .infinite false := by
  obtain ⟨top, positive, greatest, least⟩ := infinite_worth
  cases a with
  | nan => cases number
  | infinite negative =>
      cases negative with
      | false => exact le_iff_worth.mpr ⟨_, _, greatest, greatest, le_rfl⟩
      | true => exact le_iff_worth.mpr ⟨_, _, least, greatest, by omega⟩
  | finite negative mantissa shift canonical =>
      have below : finite negative mantissa shift canonical < infinite false := lt_infinite rfl
      obtain ⟨m, n, first, second, smaller⟩ := lt_iff_worth.mp below
      exact le_iff_worth.mpr ⟨m, n, first, second, smaller.le⟩

/-- Only positive infinity is as great as positive infinity. -/
theorem eq_infinite_of_le (above : .infinite false ≤ a) : a = .infinite false := by
  obtain ⟨top, positive, greatest, least⟩ := infinite_worth
  obtain ⟨m, n, first, second, ordered⟩ := le_iff_worth.mp above
  rw [greatest] at first
  cases first
  cases a with
  | nan => cases second
  | infinite negative =>
      cases negative with
      | false => rfl
      | true =>
          rw [least] at second
          cases second
          omega
  | finite negative mantissa shift canonical =>
      exact absurd above (not_lt_of_lt (lt_infinite rfl)).2

/-- A number at least as great as one that is not finite and not negative is infinite. -/
theorem not_finite_of_le (ordered : a ≤ b) (unsigned : a.isNegative = false)
    (unbounded : a.isFinite = false) : b.isFinite = false := by
  cases a with
  | nan =>
      obtain ⟨m, n, nothing, -, -⟩ := le_iff_worth.mp ordered
      cases nothing
  | infinite negative =>
      cases unsigned
      rw [eq_infinite_of_le ordered]
      rfl
  | finite negative mantissa shift canonical => cases unbounded

theorem AtLeast.isNegative (above : a.AtLeast 1) : a.isNegative = false := by
  rcases above with rfl | ⟨-, least⟩
  · rfl
  · exact isNegative_of_pos (by linarith)

/-! ## Rounding -/

theorem ofQuanta_mono {numerator numerator' denominator : ℕ} (positive : 0 < denominator)
    (ordered : numerator ≤ numerator') :
    ofQuanta false numerator denominator ≤ ofQuanta false numerator' denominator := by
  have quotients : (numerator : ℚ) / denominator ≤ (numerator' : ℚ) / denominator :=
    div_le_div_of_nonneg_right (by exact_mod_cast ordered) (by positivity)
  have kept := rounded_mono quotients
  by_cases small : rounded ((numerator' : ℚ) / denominator) < limit
  · obtain ⟨finite, worth⟩ := ofQuanta_finite false positive (lt_of_le_of_lt kept small)
    obtain ⟨finite', worth'⟩ := ofQuanta_finite false positive small
    refine le_iff_worth.mpr ⟨_, _, worth_of_finite finite, worth_of_finite finite', ?_⟩
    rw [worth, worth', if_neg Bool.false_ne_true, if_neg Bool.false_ne_true]
    exact kept
  · rw [ofQuanta_infinite false positive (not_lt.mp small)]
    exact le_infinite (isNaN_ofQuanta _ _ _)

theorem ofInt_mono {m n : ℤ} (nonnegative : 0 ≤ m) (ordered : m ≤ n) : ofInt m ≤ ofInt n := by
  unfold ofInt ofRatio
  rw [decide_eq_false (by omega), decide_eq_false (by omega)]
  exact ofQuanta_mono one_pos (Nat.mul_le_mul_right _ (by omega))

/-! ## Operations -/

theorem mul_of_pos (first : a.isFinite = true) (second : x.isFinite = true)
    (positive : 0 < a.value) (positive' : 0 < x.value) :
    a * x = ofQuanta false (a.quanta.natAbs * x.quanta.natAbs) unit := by
  have unsigned := isNegative_of_pos positive
  have unsigned' := isNegative_of_pos positive'
  change mul a x = _
  cases a with
  | nan => cases first
  | infinite negative => cases first
  | finite m mantissa shift canonical =>
      cases x with
      | nan => cases second
      | infinite negative => cases second
      | finite n mantissa' shift' canonical' =>
          cases unsigned
          cases unsigned'
          rfl

theorem mul_infinite (bounded : a.isFinite = true) (positive : 0 < a.value) :
    a * .infinite false = .infinite false := by
  have unsigned := isNegative_of_pos positive
  change mul a (.infinite false) = _
  cases a with
  | nan => cases bounded
  | infinite negative => cases bounded
  | finite m mantissa shift canonical =>
      cases unsigned
      have something : mantissa ≠ 0 := by
        rintro rfl
        simp [value, quanta] at positive
      simp only [mul, if_neg something]
      rfl

theorem mul_le_mul_left (bounded : a.isFinite = true) (positive : 0 < a.value)
    (least : x.AtLeast 1) (ordered : x ≤ y) : a * x ≤ a * y := by
  -- what is infinite stays so when it is multiplied, and nothing is above it
  rcases least with rfl | ⟨finite, least⟩
  · rw [eq_infinite_of_le ordered, mul_infinite bounded positive]
    exact le_infinite rfl
  · have above : 0 < x.value := by linarith
    rw [mul_of_pos bounded finite positive above]
    rcases atLeast_of_le finite ordered with rfl | ⟨finite', least'⟩
    · rw [mul_infinite bounded positive]
      exact le_infinite (isNaN_ofQuanta _ _ _)
    · have above' : 0 < y.value := by linarith
      rw [mul_of_pos bounded finite' positive above']
      have quanta : x.quanta ≤ y.quanta := by
        obtain ⟨m, n, first, second, below⟩ := le_iff_worth.mp ordered
        rw [worth_of_finite finite] at first
        rw [worth_of_finite finite'] at second
        rwa [← Option.some.inj first, ← Option.some.inj second] at below
      have size := quanta_eq_natAbs above.le
      have size' := quanta_eq_natAbs above'.le
      exact ofQuanta_mono unit_pos (Nat.mul_le_mul_left _ (by omega))

theorem smaller_mono (ordered : x ≤ y) (bounded : b.isFinite = true) :
    smaller x b ≤ smaller y b := by
  obtain ⟨m, n, first, second, below⟩ := le_iff_worth.mp ordered
  have third := worth_of_finite bounded
  generalize b.quanta = bound at third
  have worth {z : Binary64} {k : ℤ} (known : z.worth = some k) :
      (smaller z b).worth = some (min k bound) := by
    unfold smaller
    by_cases above : b < z
    · obtain ⟨_, _, same, same', larger⟩ := lt_iff_worth.mp above
      rw [third] at same
      rw [known] at same'
      cases same
      cases same'
      rw [if_pos above, third, min_eq_right larger.le]
    · have within : k ≤ bound := by
        by_contra larger
        exact above (lt_iff_worth.mpr ⟨bound, k, third, known, not_le.mp larger⟩)
      rw [if_neg above, known, min_eq_left within]
  exact le_iff_worth.mpr ⟨_, _, worth first, worth second, min_le_min_right bound below⟩

end Binary64
end Reattempt
