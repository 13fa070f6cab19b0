import Mathlib.Tactic
import Reattempt.Duration

/-!
# Rounding to the nearest whole number

`halfEven` rounds a rational number to the nearest whole one, a half going to the even neighbour.
It is within a half of the number, keeps the order and commutes with the sign. Quotients of whole
numbers, with and without a sign, are rounded by this rule.
-/

set_option autoImplicit false

namespace Reattempt

/-- The whole number nearest to a rational number; a half goes to the even neighbour. -/
def halfEven (x : ℚ) : ℤ :=
  if Int.fract x < 1 / 2 then ⌊x⌋
  else if 1 / 2 < Int.fract x then ⌊x⌋ + 1
  else ⌊x⌋ + ⌊x⌋ % 2

theorem halfEven_near (x : ℚ) : |(halfEven x : ℚ) - x| ≤ 1 / 2 := by
  have whole := Int.floor_add_fract x
  have low := Int.fract_nonneg x
  have high := Int.fract_lt_one x
  unfold halfEven
  rw [abs_le]
  by_cases below : Int.fract x < 1 / 2
  · rw [if_pos below]
    constructor <;> linarith
  · rw [if_neg below]
    by_cases above : 1 / 2 < Int.fract x
    · rw [if_pos above]
      push_cast
      constructor <;> linarith
    · rw [if_neg above]
      have half : Int.fract x = 1 / 2 := by linarith
      have parity : ⌊x⌋ % 2 = 0 ∨ ⌊x⌋ % 2 = 1 := by omega
      push_cast
      rcases parity with even | odd
      · rw [even]
        push_cast
        constructor <;> linarith
      · rw [odd]
        push_cast
        constructor <;> linarith

/-- A number less than a half away from a whole one is rounded to it. -/
theorem halfEven_eq {x : ℚ} {k : ℤ} (near : |x - k| < 1 / 2) : halfEven x = k := by
  have rounded := abs_le.mp (halfEven_near x)
  have close := abs_lt.mp near
  have below : ((halfEven x : ℤ) : ℚ) < k + 1 := by linarith
  have above : (k : ℚ) < halfEven x + 1 := by linarith
  have below' : halfEven x < k + 1 := by exact_mod_cast below
  have above' : k < halfEven x + 1 := by exact_mod_cast above
  omega

@[simp] theorem halfEven_intCast (k : ℤ) : halfEven (k : ℚ) = k := halfEven_eq (by simp)

theorem halfEven_mono {x y : ℚ} (ordered : x ≤ y) : halfEven x ≤ halfEven y := by
  by_contra reversed
  have step : halfEven y + 1 ≤ halfEven x := by omega
  have step' : (halfEven y : ℚ) + 1 ≤ halfEven x := by exact_mod_cast step
  have nearX := abs_le.mp (halfEven_near x)
  have nearY := abs_le.mp (halfEven_near y)
  -- both numbers would have to be the half between the two results
  have same : x = y := by linarith
  rw [same] at reversed
  omega

theorem halfEven_of_half (k : ℤ) : halfEven (k + 1 / 2) = k + k % 2 := by
  have whole : ⌊(k : ℚ) + 1 / 2⌋ = k := by
    rw [Int.floor_eq_iff]
    constructor <;> linarith
  have part : Int.fract ((k : ℚ) + 1 / 2) = 1 / 2 := by
    rw [Int.fract, whole]
    ring
  simp only [halfEven, whole, part, lt_irrefl, if_false]

theorem halfEven_neg (x : ℚ) : halfEven (-x) = -halfEven x := by
  have near := halfEven_near x
  by_cases strict : |(halfEven x : ℚ) - x| < 1 / 2
  · apply halfEven_eq
    have same : -x - ((-halfEven x : ℤ) : ℚ) = halfEven x - x := by
      push_cast
      ring
    rw [same]
    exact strict
  · have tie : |(halfEven x : ℚ) - x| = 1 / 2 := by linarith
    have tied : ∃ k : ℤ, x = k + 1 / 2 := by
      rcases abs_choice ((halfEven x : ℚ) - x) with up | down
      · refine ⟨halfEven x - 1, ?_⟩
        push_cast
        linarith
      · refine ⟨halfEven x, ?_⟩
        linarith
    obtain ⟨k, rfl⟩ := tied
    have mirrored : -((k : ℚ) + 1 / 2) = ((-k - 1 : ℤ) : ℚ) + 1 / 2 := by
      push_cast
      ring
    rw [mirrored, halfEven_of_half, halfEven_of_half]
    omega

theorem nearestEven_eq (numerator : ℕ) {denominator : ℕ} (positive : 0 < denominator) :
    (nearestEven numerator denominator : ℤ) = halfEven ((numerator : ℚ) / denominator) := by
  have positive' : (0 : ℚ) < denominator := by exact_mod_cast positive
  have whole : ⌊(numerator : ℚ) / denominator⌋ = ((numerator / denominator : ℕ) : ℤ) :=
    Rat.floor_natCast_div_natCast numerator denominator
  have part : Int.fract ((numerator : ℚ) / denominator) =
      ((numerator % denominator : ℕ) : ℚ) / denominator :=
    Int.fract_div_natCast_eq_div_natCast_mod
  have below : Int.fract ((numerator : ℚ) / denominator) < 1 / 2 ↔
      2 * (numerator % denominator) < denominator := by
    rw [part, div_lt_div_iff₀ positive' (by norm_num)]
    rw [← Nat.cast_lt (α := ℚ)]
    push_cast
    constructor <;> intro h <;> linarith
  have above : 1 / 2 < Int.fract ((numerator : ℚ) / denominator) ↔
      denominator < 2 * (numerator % denominator) := by
    rw [part, div_lt_div_iff₀ (by norm_num) positive']
    rw [← Nat.cast_lt (α := ℚ)]
    push_cast
    constructor <;> intro h <;> linarith
  simp only [nearestEven, halfEven, below, above, whole]
  split
  · rfl
  · split <;> push_cast <;> rfl

theorem Duration.nearestEvenInt_eq (numerator : ℤ) {denominator : ℕ}
    (positive : 0 < denominator) :
    Duration.nearestEvenInt numerator denominator = halfEven ((numerator : ℚ) / denominator) := by
  unfold Duration.nearestEvenInt
  rw [nearestEven_eq _ positive, ← Int.cast_natCast (R := ℚ) numerator.natAbs]
  by_cases negative : numerator < 0
  · have size : ((numerator.natAbs : ℤ) : ℚ) = -numerator := by
      rw [Int.ofNat_natAbs_of_nonpos negative.le]
      push_cast
      rfl
    rw [if_pos negative, size, neg_div, halfEven_neg, neg_neg]
  · have size : (numerator.natAbs : ℤ) = numerator := Int.natAbs_of_nonneg (by omega)
    rw [if_neg negative, size]

end Reattempt
