import Mathlib.Tactic
import Reattempt.Proofs.Binary64.Rounding

/-!
# Arithmetic on the values of numbers

A finite number has a rational value, and `nearest` rounds a rational number to the value nearest to
it. As long as nothing becomes too large, sums, differences and products have the value nearest to
the exact one; comparisons, minima and maxima are those of the values.
-/

set_option autoImplicit false

namespace Reattempt

namespace Binary64

/-- How many quanta make one, closed in the same way as `limit`. -/
@[irreducible] def scale : ℚ := 2 ^ 1074

def value (x : Binary64) : ℚ := x.quanta / scale

def nearest (v : ℚ) : ℚ := rounded (v * scale) / scale

/-! ## Rounding of rational numbers -/

/-- The exponent by name, so that the power is not computed. -/
theorem scale_exponent : ∃ exponent, exponent = 1074 ∧ scale = 2 ^ exponent :=
  ⟨1074, rfl, by rw [scale]⟩

theorem scale_eq {k rest : ℕ} (sum : k + rest = 1074) : scale = 2 ^ k * 2 ^ rest := by
  obtain ⟨exponent, known, power⟩ := scale_exponent
  rw [power, ← pow_add]
  congr 1
  omega

theorem scale_pos : 0 < scale := by
  rw [scale]
  positivity

theorem cast_quanta (x : Binary64) : ((x.quanta : ℤ) : ℚ) = x.value * scale := by
  have positive := scale_pos
  unfold value
  field_simp

theorem cast_two_pow (exponent : ℕ) : ((Nat.pow 2 exponent : ℕ) : ℚ) = 2 ^ exponent := by
  push_cast [Nat.pow_eq]
  rfl

theorem cast_unit : ((unit : ℕ) : ℚ) = scale := by
  unfold unit scale
  generalize 1074 = exponent
  exact cast_two_pow exponent

theorem unit_pos : 0 < unit := by
  have positive := scale_pos
  rw [← cast_unit] at positive
  exact Nat.cast_pos.mp positive

theorem nearest_near {v : ℚ} {k : ℕ} (bounded : |v| ≤ 2 ^ k) :
    |nearest v - v| ≤ 2 ^ k / 2 ^ 54 := by
  have positive := scale_pos
  have split : scale = 2 ^ 53 * 2 ^ 1021 := scale_eq rfl
  have bounded' : |v * scale| ≤ 2 ^ (53 + (1021 + k)) := by
    rw [abs_mul, abs_of_pos positive, pow_add, pow_add, ← mul_assoc, ← split]
    calc |v| * scale ≤ 2 ^ k * scale := mul_le_mul_of_nonneg_right bounded positive.le
      _ = scale * 2 ^ k := mul_comm _ _
  have near := rounded_near bounded'
  have scaled : nearest v - v = ((rounded (v * scale) : ℚ) - v * scale) / scale := by
    unfold nearest
    field_simp
  rw [scaled, abs_div, abs_of_pos positive, div_le_iff₀ positive]
  calc |(rounded (v * scale) : ℚ) - v * scale| ≤ 2 ^ (1021 + k) / 2 := near
    _ = 2 ^ k / 2 ^ 54 * scale := by
        rw [split, pow_add]
        generalize (2 : ℚ) ^ 1021 = large
        ring

theorem nearest_mono {v w : ℚ} (ordered : v ≤ w) : nearest v ≤ nearest w := by
  have scaled : v * scale ≤ w * scale := mul_le_mul_of_nonneg_right ordered scale_pos.le
  have kept : (rounded (v * scale) : ℚ) ≤ rounded (w * scale) := by
    exact_mod_cast rounded_mono scaled
  exact div_le_div_of_nonneg_right kept scale_pos.le

theorem nearest_neg (v : ℚ) : nearest (-v) = -nearest v := by
  unfold nearest
  rw [neg_mul, rounded_neg]
  push_cast
  ring

theorem nearest_dyadic {mantissa : ℤ} (bits : |mantissa| < 2 ^ 53) {places : ℕ}
    (fine : places ≤ 1074) : nearest (mantissa / 2 ^ places) = mantissa / 2 ^ places := by
  obtain ⟨rest, sum⟩ := Nat.exists_eq_add_of_le fine
  have whole : (mantissa : ℚ) / 2 ^ places * scale = ((mantissa * 2 ^ rest : ℤ) : ℚ) := by
    rw [scale_eq sum.symm]
    push_cast
    field_simp
  have exact := rounded_exact bits rest
  unfold nearest
  rw [whole, exact, ← whole]
  have positive := scale_pos
  field_simp

theorem nearest_two_pow (k : ℕ) : nearest (2 ^ k) = 2 ^ k := by
  obtain ⟨exponent, known, power⟩ := scale_exponent
  have whole : (2 : ℚ) ^ k * scale = ((1 * 2 ^ (k + exponent) : ℤ) : ℚ) := by
    rw [power, ← pow_add]
    push_cast
    ring
  have exact : rounded ((1 * 2 ^ (k + exponent) : ℤ) : ℚ) = 1 * 2 ^ (k + exponent) :=
    rounded_exact (by norm_num) (k + exponent)
  have positive := scale_pos
  unfold nearest
  rw [whole, exact, ← whole]
  field_simp

theorem nearest_intCast {count : ℤ} (bits : |count| < 2 ^ 53) : nearest count = count := by
  have exact := nearest_dyadic bits (Nat.zero_le 1074)
  simpa using exact

@[simp] theorem nearest_zero : nearest 0 = 0 := by
  have exact : nearest ((0 : ℤ) : ℚ) = (0 : ℤ) := nearest_intCast (by norm_num)
  simpa using exact

theorem nearest_nonneg {v : ℚ} (nonnegative : 0 ≤ v) : 0 ≤ nearest v := by
  have kept := nearest_mono nonnegative
  rwa [nearest_zero] at kept

/-- The quanta of a number are not moved by rounding, and neither are twice as many. -/
theorem rounded_quanta (x : Binary64) :
    rounded ((x.quanta : ℤ) : ℚ) = x.quanta ∧ rounded ((2 * x.quanta : ℤ) : ℚ) = 2 * x.quanta := by
  have written : ∃ mantissa : ℤ, |mantissa| < 2 ^ 53 ∧ ∃ shift : ℕ,
      x.quanta = mantissa * 2 ^ shift := by
    cases x with
    | nan => exact ⟨0, by norm_num, 0, rfl⟩
    | infinite negative => exact ⟨0, by norm_num, 0, rfl⟩
    | finite negative mantissa shift canonical =>
        have bits : |(mantissa : ℤ)| < 2 ^ 53 := by
          have below : mantissa < 2 ^ 53 := canonical.1
          rw [abs_of_nonneg (by positivity)]
          exact_mod_cast below
        have same : ((mantissa * Nat.pow 2 shift : ℕ) : ℤ) = mantissa * 2 ^ shift := by
          push_cast [Nat.pow_eq]
          rfl
        cases negative with
        | false => exact ⟨mantissa, bits, shift, same⟩
        | true =>
            refine ⟨-mantissa, by rwa [abs_neg], shift, ?_⟩
            simp only [quanta, same, if_true]
            ring
  obtain ⟨mantissa, bits, shift, same⟩ := written
  have doubled : 2 * x.quanta = mantissa * 2 ^ (shift + 1) := by
    rw [same, pow_succ]
    ring
  constructor
  · rw [same]
    exact rounded_exact bits shift
  · rw [doubled]
    exact rounded_exact bits (shift + 1)

/-- Values are not moved by rounding. -/
theorem nearest_value (x : Binary64) : nearest x.value = x.value := by
  unfold nearest
  rw [← cast_quanta, (rounded_quanta x).1]
  rfl

theorem nearest_double (x : Binary64) : nearest (2 * x.value) = 2 * x.value := by
  have scaled : 2 * x.value * scale = ((2 * x.quanta : ℤ) : ℚ) := by
    rw [Int.cast_mul, cast_quanta]
    push_cast
    ring
  have positive := scale_pos
  unfold nearest
  rw [scaled, (rounded_quanta x).2, ← scaled]
  field_simp

theorem nearest_le_value {v : ℚ} {x : Binary64} (below : v ≤ x.value) : nearest v ≤ x.value := by
  have kept := nearest_mono below
  rwa [nearest_value] at kept

theorem nearest_le_intCast {v : ℚ} {count : ℤ} (bits : |count| < 2 ^ 53) (below : v ≤ count) :
    nearest v ≤ count := by
  have kept := nearest_mono below
  rwa [nearest_intCast bits] at kept

theorem abs_nearest_le {v : ℚ} {count : ℤ} (bits : |count| < 2 ^ 53) (within : |v| ≤ count) :
    |nearest v| ≤ count := by
  obtain ⟨low, high⟩ := abs_le.mp within
  rw [abs_le]
  constructor
  · have mirrored : -v ≤ count := by linarith
    have kept := nearest_le_intCast bits mirrored
    rw [nearest_neg] at kept
    linarith
  · exact nearest_le_intCast bits high

/-! ## Results of operations -/

theorem rounded_lt_limit {v : ℚ} (moderate : v ≤ 2 ^ 100) : rounded (v * scale) < limit := by
  obtain ⟨exponent, known, power⟩ := scale_exponent
  have scaled : v * scale ≤ ((1 * 2 ^ (100 + exponent) : ℤ) : ℚ) := by
    have whole : ((1 * 2 ^ (100 + exponent) : ℤ) : ℚ) = 2 ^ 100 * scale := by
      rw [power, ← pow_add]
      push_cast
      ring
    rw [whole]
    exact mul_le_mul_of_nonneg_right moderate scale_pos.le
  have kept := rounded_mono scaled
  rw [rounded_exact (by norm_num), one_mul] at kept
  have below : 2 ^ (100 + exponent) < limit := by
    unfold limit
    gcongr
    · norm_num
    · omega
  have below' : (2 : ℤ) ^ (100 + exponent) < limit := by exact_mod_cast below
  omega

/-- A rounded result has the sign it is made with and the nearest value. -/
theorem ofQuanta_value {v : ℚ} {numerator denominator : ℕ} {negative : Bool}
    (positive : 0 < denominator) (size : (numerator : ℚ) / denominator = |v| * scale)
    (sign : if negative then v ≤ 0 else 0 ≤ v) (moderate : |v| ≤ 2 ^ 100) :
    (ofQuanta negative numerator denominator).isFinite = true ∧
      (ofQuanta negative numerator denominator).value = nearest v := by
  have bounded := rounded_lt_limit moderate
  rw [← size] at bounded
  obtain ⟨finite, worth⟩ := ofQuanta_finite negative positive bounded
  refine ⟨finite, ?_⟩
  unfold value nearest
  rw [worth, size]
  cases negative with
  | false =>
      have above : 0 ≤ v := sign
      rw [abs_of_nonneg above]
      rfl
  | true =>
      have below : v ≤ 0 := sign
      rw [abs_of_nonpos below, neg_mul, rounded_neg, if_pos rfl, neg_neg]

theorem ofRatio_value {numerator : ℤ} {denominator : ℕ} (positive : 0 < denominator)
    (moderate : |(numerator : ℚ) / denominator| ≤ 2 ^ 100) :
    (ofRatio numerator denominator).isFinite = true ∧
      (ofRatio numerator denominator).value = nearest ((numerator : ℚ) / denominator) := by
  have positive' : (0 : ℚ) < denominator := by exact_mod_cast positive
  refine ofQuanta_value positive ?_ ?_ moderate
  · have size : ((numerator.natAbs : ℕ) : ℚ) = |(numerator : ℚ)| := by
      rw [Nat.cast_natAbs, Int.cast_abs]
    rw [Nat.cast_mul, size, cast_unit, abs_div, abs_of_pos positive']
    ring
  · by_cases below : numerator < 0
    · have below' : (numerator : ℚ) ≤ 0 := by exact_mod_cast below.le
      rw [decide_eq_true below, if_pos rfl]
      exact div_nonpos_of_nonpos_of_nonneg below' positive'.le
    · have above : (0 : ℚ) ≤ numerator := by exact_mod_cast not_lt.mp below
      rw [decide_eq_false below, if_neg Bool.false_ne_true]
      exact div_nonneg above positive'.le

theorem ofInt_value {count : ℤ} (bits : |count| < 2 ^ 53) :
    (ofInt count).isFinite = true ∧ (ofInt count).value = count := by
  have bits' : |(count : ℚ)| < 2 ^ 53 := by exact_mod_cast bits
  have moderate : |(count : ℚ) / (1 : ℕ)| ≤ 2 ^ 100 := by
    rw [Nat.cast_one, div_one]
    have larger : (2 : ℚ) ^ 53 ≤ 2 ^ 100 := by norm_num
    linarith
  have made := ofRatio_value one_pos moderate
  rw [Nat.cast_one, div_one, nearest_intCast bits] at made
  exact made

theorem ofInt_zero : (ofInt 0).isFinite = true ∧ (ofInt 0).value = 0 := by
  obtain ⟨finite, worth⟩ := ofInt_value (show |(0 : ℤ)| < 2 ^ 53 by norm_num)
  exact ⟨finite, worth.trans Int.cast_zero⟩

theorem ofInt_one : (ofInt 1).isFinite = true ∧ (ofInt 1).value = 1 := by
  obtain ⟨finite, worth⟩ := ofInt_value (show |(1 : ℤ)| < 2 ^ 53 by norm_num)
  exact ⟨finite, worth.trans Int.cast_one⟩

@[simp] theorem zero_value : zero.value = 0 := by
  simp [value, zero, quanta]

theorem neg_isFinite (a : Binary64) : (-a).isFinite = a.isFinite := by
  cases a <;> rfl

theorem neg_value (a : Binary64) : (-a).value = -a.value := by
  have mirrored : (-a).quanta = -a.quanta := by
    change (neg a).quanta = -a.quanta
    cases a with
    | nan => rfl
    | infinite negative => rfl
    | finite negative mantissa shift canonical => cases negative <;> simp [neg, quanta]
  unfold value
  rw [mirrored]
  push_cast
  ring

theorem natAbs_quanta_finite (negative : Bool) {mantissa shift : ℕ}
    (canonical : Canonical mantissa shift) :
    (finite negative mantissa shift canonical).quanta.natAbs = mantissa * 2 ^ shift := by
  cases negative with
  | false => exact Int.natAbs_natCast _
  | true => exact (Int.natAbs_neg _).trans (Int.natAbs_natCast _)

theorem natAbs_quanta (a : Binary64) : ((a.quanta.natAbs : ℕ) : ℚ) = |a.value| * scale := by
  rw [Nat.cast_natAbs, Int.cast_abs, cast_quanta, abs_mul, abs_of_pos scale_pos]

theorem add_value {a b : Binary64} (first : a.isFinite = true) (second : b.isFinite = true)
    (moderate : |a.value + b.value| ≤ 2 ^ 100) :
    (a + b).isFinite = true ∧ (a + b).value = nearest (a.value + b.value) := by
  have positive := scale_pos
  have total : a.value + b.value = ((a.quanta + b.quanta : ℤ) : ℚ) / scale := by
    unfold value
    push_cast
    ring
  change (add a b).isFinite = true ∧ (add a b).value = _
  cases a with
  | nan => cases first
  | infinite negative => cases first
  | finite m mantissa shift canonical =>
      cases b with
      | nan => cases second
      | infinite negative => cases second
      | finite n mantissa' shift' canonical' =>
          simp only [add]
          generalize (finite m mantissa shift canonical).quanta +
            (finite n mantissa' shift' canonical').quanta = sum at *
          refine ofQuanta_value one_pos ?_ ?_ moderate
          · rw [total, Nat.cast_one, div_one, abs_div, abs_of_pos positive, Nat.cast_natAbs,
              Int.cast_abs]
            field_simp
          · rw [total]
            by_cases none : sum = 0
            · rw [if_pos none, none]
              simp
            · rw [if_neg none]
              by_cases below : sum < 0
              · have below' : (sum : ℚ) ≤ 0 := by exact_mod_cast below.le
                rw [decide_eq_true below, if_pos rfl]
                exact div_nonpos_of_nonpos_of_nonneg below' positive.le
              · have above : (0 : ℚ) ≤ sum := by exact_mod_cast not_lt.mp below
                rw [decide_eq_false below, if_neg Bool.false_ne_true]
                exact div_nonneg above positive.le

theorem sub_value {a b : Binary64} (first : a.isFinite = true) (second : b.isFinite = true)
    (moderate : |a.value - b.value| ≤ 2 ^ 100) :
    (a - b).isFinite = true ∧ (a - b).value = nearest (a.value - b.value) := by
  have second' : (-b).isFinite = true := by rw [neg_isFinite, second]
  have sum : a.value - b.value = a.value + (-b).value := by rw [neg_value, sub_eq_add_neg]
  rw [sum] at moderate ⊢
  exact add_value first second' moderate

/-- The sign of a finite number is the one of its value. -/
theorem value_sign (a : Binary64) : if a.isNegative then a.value ≤ 0 else 0 ≤ a.value := by
  have positive := scale_pos
  cases a with
  | nan => simp [isNegative, value, quanta]
  | infinite negative => cases negative <;> simp [isNegative, value, quanta]
  | finite negative mantissa shift canonical =>
      have nonnegative : (0 : ℚ) ≤ ((mantissa * Nat.pow 2 shift : ℕ) : ℚ) / scale := by positivity
      cases negative with
      | false => simpa [isNegative, value, quanta] using nonnegative
      | true =>
          simp only [isNegative, value, quanta, if_true]
          rw [Int.cast_neg, Int.cast_natCast, neg_div]
          linarith

theorem mul_value {a b : Binary64} (first : a.isFinite = true) (second : b.isFinite = true)
    (moderate : |a.value * b.value| ≤ 2 ^ 100) :
    (a * b).isFinite = true ∧ (a * b).value = nearest (a.value * b.value) := by
  have positive := scale_pos
  have signA := value_sign a
  have signB := value_sign b
  change (mul a b).isFinite = true ∧ (mul a b).value = _
  cases a with
  | nan => cases first
  | infinite negative => cases first
  | finite m mantissa shift canonical =>
      cases b with
      | nan => cases second
      | infinite negative => cases second
      | finite n mantissa' shift' canonical' =>
          simp only [mul]
          refine ofQuanta_value unit_pos ?_ ?_ moderate
          · rw [Nat.cast_mul, natAbs_quanta, natAbs_quanta, abs_mul, cast_unit]
            field_simp
          · simp only [isNegative] at signA signB
            cases m <;> cases n
            · exact mul_nonneg signA signB
            · exact mul_nonpos_of_nonneg_of_nonpos signA signB
            · exact mul_nonpos_of_nonpos_of_nonneg signA signB
            · exact mul_nonneg_of_nonpos_of_nonpos signA signB

/-! ## Order -/

theorem worth_of_finite {a : Binary64} (finite : a.isFinite = true) :
    a.worth = some a.quanta := by
  cases a with
  | nan => cases finite
  | infinite negative => cases finite
  | finite negative mantissa shift canonical => rfl

theorem lt_iff {a b : Binary64} (first : a.isFinite = true) (second : b.isFinite = true) :
    a < b ↔ a.value < b.value := by
  change less a b = true ↔ _
  simp only [less, worth_of_finite first, worth_of_finite second, decide_eq_true_eq]
  unfold value
  rw [div_lt_div_iff_of_pos_right scale_pos]
  exact Int.cast_lt.symm

theorem le_iff {a b : Binary64} (first : a.isFinite = true) (second : b.isFinite = true) :
    a ≤ b ↔ a.value ≤ b.value := by
  change lessOrEqual a b = true ↔ _
  simp only [lessOrEqual, worth_of_finite first, worth_of_finite second, decide_eq_true_eq]
  unfold value
  rw [div_le_div_iff_of_pos_right scale_pos]
  exact Int.cast_le.symm

theorem smaller_value {a b : Binary64} (first : a.isFinite = true) (second : b.isFinite = true) :
    (smaller a b).isFinite = true ∧ (smaller a b).value = min a.value b.value := by
  unfold smaller
  by_cases below : b < a
  · rw [if_pos below]
    exact ⟨second, (min_eq_right ((lt_iff second first).mp below).le).symm⟩
  · rw [if_neg below]
    rw [lt_iff second first] at below
    exact ⟨first, (min_eq_left (not_lt.mp below)).symm⟩

theorem larger_value {a b : Binary64} (first : a.isFinite = true) (second : b.isFinite = true) :
    (larger a b).isFinite = true ∧ (larger a b).value = max a.value b.value := by
  unfold larger
  by_cases below : a < b
  · rw [if_pos below]
    exact ⟨second, (max_eq_right ((lt_iff first second).mp below).le).symm⟩
  · rw [if_neg below]
    rw [lt_iff first second] at below
    exact ⟨first, (max_eq_left (not_lt.mp below)).symm⟩

end Binary64
end Reattempt
