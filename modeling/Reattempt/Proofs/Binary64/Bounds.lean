import Mathlib.Tactic
import Reattempt.Proofs.Binary64.Arithmetic
import Reattempt.Proofs.Binary64.Sign

/-!
# Numbers between bounds

A number that lies between finite numbers is finite. A number brought between two finite bounds lies
between them even if it was infinite before, and a positive number times a factor of at least one is
at least as great as before, unless the product is too great for a finite number.
-/

set_option autoImplicit false

namespace Reattempt

namespace Binary64

theorem abs_quanta_lt_limit (x : Binary64) : |x.quanta| < limit := by
  have positive : |(0 : ℤ)| < limit := by
    rw [abs_zero]
    exact Int.natCast_pos.mpr limit_pos
  cases x with
  | nan => exact positive
  | infinite negative => exact positive
  | finite negative mantissa shift canonical =>
      rw [Int.abs_eq_natAbs, natAbs_quanta_finite]
      exact Int.ofNat_lt.mpr (canonical_lt_limit canonical)

theorem limit_lt : (limit : ℤ) < Int.pow 2 2100 := by
  have below : limit < 2 ^ 2100 := by
    unfold limit
    gcongr
    · norm_num
    · norm_num
  have cast : ∀ exponent : ℕ, Int.pow 2 exponent = ((2 ^ exponent : ℕ) : ℤ) := by
    intro exponent
    push_cast
    rfl
  rw [cast]
  exact_mod_cast below

theorem lt_infinite {a : Binary64} (finite : a.isFinite = true) : a < .infinite false := by
  have inside := abs_lt.mp a.abs_quanta_lt_limit
  have outside := limit_lt
  have greatest : (infinite false).worth = some (Int.pow 2 2100) := rfl
  change less a (.infinite false) = true
  simp only [less, worth_of_finite finite, greatest]
  exact decide_eq_true (by omega)

theorem infinite_lt {a : Binary64} (finite : a.isFinite = true) : .infinite true < a := by
  have inside := abs_lt.mp a.abs_quanta_lt_limit
  have outside := limit_lt
  have least : (infinite true).worth = some (-(Int.pow 2 2100)) := rfl
  change less (.infinite true) a = true
  simp only [less, worth_of_finite finite, least]
  exact decide_eq_true (by omega)

theorem not_lt_of_lt {a b : Binary64} (below : a < b) : ¬ b < a ∧ ¬ b ≤ a := by
  change less a b = true at below
  have apart : ¬ less b a = true ∧ ¬ lessOrEqual b a = true := by
    unfold less at below ⊢
    unfold lessOrEqual
    cases first : a.worth with
    | none => simp [first] at below
    | some x =>
        cases second : b.worth with
        | none => simp [first, second] at below
        | some y =>
            simp only [first, second, decide_eq_true_eq] at below ⊢
            omega
  exact apart

theorem isFinite_of_between {a x b : Binary64} (first : a.isFinite = true)
    (second : b.isFinite = true) (above : a ≤ x) (below : x < b) : x.isFinite = true := by
  cases x with
  | nan =>
      have nothing : nan.worth = none := rfl
      change less .nan b = true at below
      simp [less, nothing] at below
  | infinite negative =>
      cases negative with
      | false => exact absurd below (not_lt_of_lt (lt_infinite second)).1
      | true => exact absurd above (not_lt_of_lt (infinite_lt first)).2
  | finite negative mantissa shift canonical => rfl

theorem ofInt_zero_le {count : ℤ} (nonnegative : 0 ≤ count)
    (finite : (ofInt count).isFinite = true) : ofInt 0 ≤ ofInt count := by
  obtain ⟨zeroFinite, zeroValue⟩ := ofInt_zero
  obtain ⟨natural, rfl⟩ := Int.eq_ofNat_of_zero_le nonnegative
  have sign := value_sign (ofInt natural)
  rw [isNegative_ofInt_natCast, if_neg Bool.false_ne_true] at sign
  rw [le_iff zeroFinite finite, zeroValue]
  exact sign

/-- Whatever a number was before, it can be brought between two bounds. -/
theorem clamp_bounds {x low high : Binary64} (number : x.isNaN = false)
    (first : low.isFinite = true) (second : high.isFinite = true)
    (ordered : low.value ≤ high.value) :
    (smaller (larger x low) high).isFinite = true ∧
      low.value ≤ (smaller (larger x low) high).value ∧
      (smaller (larger x low) high).value ≤ high.value := by
  cases x with
  | nan => cases number
  | infinite negative =>
      cases negative with
      | false =>
          have unmoved : larger (.infinite false) low = .infinite false :=
            if_neg (not_lt_of_lt (lt_infinite first)).1
          have lowered : smaller (.infinite false) high = high := if_pos (lt_infinite second)
          rw [unmoved, lowered]
          exact ⟨second, ordered, le_rfl⟩
      | true =>
          have raised : larger (.infinite true) low = low := if_pos (infinite_lt first)
          obtain ⟨finite, worth⟩ := smaller_value first second
          rw [raised, worth, min_eq_left ordered]
          exact ⟨finite, le_rfl, ordered⟩
  | finite negative mantissa shift canonical =>
      obtain ⟨firstFinite, firstWorth⟩ :=
        larger_value (a := .finite negative mantissa shift canonical) rfl first
      obtain ⟨finite, worth⟩ := smaller_value firstFinite second
      rw [worth, firstWorth]
      exact ⟨finite, le_min (le_max_right _ _) ordered, min_le_right _ _⟩

def AtLeast (v : ℚ) (x : Binary64) : Prop :=
  x = .infinite false ∨ (x.isFinite = true ∧ v ≤ x.value)

theorem AtLeast.smaller {v : ℚ} {x high : Binary64} (above : x.AtLeast v)
    (finite : high.isFinite = true) (ordered : v ≤ high.value) :
    (smaller x high).isFinite = true ∧ v ≤ (smaller x high).value ∧
      (smaller x high).value ≤ high.value := by
  rcases above with rfl | ⟨bounded, least⟩
  · have lowered : Binary64.smaller (.infinite false) high = high := if_pos (lt_infinite finite)
    rw [lowered]
    exact ⟨finite, ordered, le_rfl⟩
  · obtain ⟨bounded', worth⟩ := smaller_value bounded finite
    rw [worth]
    exact ⟨bounded', le_min least ordered, min_le_right _ _⟩

theorem atLeast_of_le {a x : Binary64} (finite : a.isFinite = true) (above : a ≤ x) :
    x.AtLeast a.value := by
  cases x with
  | nan =>
      have nothing : nan.worth = none := rfl
      change lessOrEqual a .nan = true at above
      simp [lessOrEqual, nothing] at above
  | infinite negative =>
      cases negative with
      | false => exact Or.inl rfl
      | true => exact absurd above (not_lt_of_lt (infinite_lt finite)).2
  | finite negative mantissa shift canonical => exact Or.inr ⟨rfl, (le_iff finite rfl).mp above⟩

theorem atLeast_one_of_le {x : Binary64} (above : ofInt 1 ≤ x) : x.AtLeast 1 := by
  obtain ⟨oneFinite, oneValue⟩ := ofInt_one
  have least := atLeast_of_le oneFinite above
  rw [oneValue] at least
  exact least

theorem isNegative_of_pos {a : Binary64} (positive : 0 < a.value) : a.isNegative = false := by
  have sign := value_sign a
  by_contra negative
  rw [Bool.not_eq_false] at negative
  rw [negative, if_pos rfl] at sign
  linarith

theorem AtLeast.ofQuanta {x : Binary64} {numerator denominator : ℕ} (positive : 0 < denominator)
    (above : (x.quanta : ℚ) ≤ (numerator : ℚ) / denominator) :
    (ofQuanta false numerator denominator).AtLeast x.value := by
  have kept := rounded_mono above
  rw [(rounded_quanta x).1] at kept
  by_cases small : rounded ((numerator : ℚ) / denominator) < limit
  · right
    obtain ⟨bounded, worth⟩ := ofQuanta_finite false positive small
    rw [if_neg Bool.false_ne_true] at worth
    refine ⟨bounded, ?_⟩
    unfold value
    rw [worth]
    exact div_le_div_of_nonneg_right (Int.cast_le.mpr kept) scale_pos.le
  · left
    exact ofQuanta_infinite false positive (not_lt.mp small)

/-- Multiplied by at least one, a positive number does not become less. -/
theorem AtLeast.mul {a factor : Binary64} (bounded : a.isFinite = true) (positive : 0 < a.value)
    (grown : factor.AtLeast 1) : (a * factor).AtLeast a.value := by
  have unsigned := isNegative_of_pos positive
  change (Binary64.mul a factor).AtLeast a.value
  cases a with
  | nan => cases bounded
  | infinite negative => cases bounded
  | finite m mantissa shift canonical =>
      cases unsigned
      rcases grown with rfl | ⟨bounded', least⟩
      · left
        have something : mantissa ≠ 0 := by
          rintro rfl
          simp [value, quanta] at positive
        simp only [Binary64.mul, if_neg something]
        rfl
      · have positive' : 0 < factor.value := by linarith
        have unsigned' := isNegative_of_pos positive'
        cases factor with
        | nan => cases bounded'
        | infinite negative => cases bounded'
        | finite n mantissa' shift' canonical' =>
            cases unsigned'
            simp only [Binary64.mul, bne_self_eq_false]
            apply AtLeast.ofQuanta unit_pos
            have scalePositive := scale_pos
            rw [Nat.cast_mul, natAbs_quanta, natAbs_quanta, cast_quanta, cast_unit,
              abs_of_pos positive, abs_of_pos positive', le_div_iff₀ scalePositive]
            generalize (Binary64.finite false mantissa shift canonical).value = v at *
            generalize (Binary64.finite false mantissa' shift' canonical').value = w at *
            calc v * scale * scale = v * 1 * (scale * scale) := by ring
              _ ≤ v * w * (scale * scale) :=
                  mul_le_mul_of_nonneg_right (mul_le_mul_of_nonneg_left least positive.le)
                    (mul_pos scalePositive scalePositive).le
              _ = v * scale * (w * scale) := by ring

/-- The mantissa of a number of at least `2 ^ 46` has no bits worth less than `1 / 64`. -/
theorem multiple_of_large {x : Binary64} (large : 2 ^ 46 ≤ x.value) :
    ∃ count : ℤ, x.value = count / 2 ^ 6 := by
  have positive : 0 < x.value := lt_of_lt_of_le (by norm_num) large
  have unsigned := isNegative_of_pos positive
  cases x with
  | nan => simp [value, quanta] at positive
  | infinite negative => simp [value, quanta] at positive
  | finite negative mantissa shift canonical =>
      cases unsigned
      have worth : (finite false mantissa shift canonical).value =
          mantissa * 2 ^ shift / scale := by
        have size : (finite false mantissa shift canonical).quanta =
            ((mantissa * Nat.pow 2 shift : ℕ) : ℤ) := rfl
        rw [value, size, Int.cast_natCast, Nat.cast_mul, cast_two_pow]
      have bits : (mantissa : ℚ) < 2 ^ 53 := by exact_mod_cast canonical.1
      by_cases fine : shift ≤ 1067
      · -- then all bits together are worth less than `2 ^ 46`
        have split : scale = 2 ^ 7 * 2 ^ 1067 := scale_eq rfl
        have power : (2 : ℚ) ^ shift ≤ 2 ^ 1067 := pow_le_pow_right₀ (by norm_num) fine
        have powerPositive : (0 : ℚ) < 2 ^ shift := pow_pos (by norm_num) shift
        rw [worth, le_div_iff₀ scale_pos, split] at large
        generalize (2 : ℚ) ^ 1067 = step at *
        nlinarith
      · obtain ⟨rest, sum⟩ := Nat.exists_eq_add_of_le (not_le.mp fine)
        have split : scale = 2 ^ 1068 * 2 ^ 6 := scale_eq rfl
        refine ⟨mantissa * 2 ^ rest, ?_⟩
        rw [worth, split, sum, pow_add]
        push_cast
        generalize 1068 = places
        field_simp

end Binary64
end Reattempt
