import Mathlib.Tactic
import Reattempt.Proofs.Binary64.HalfEven

/-!
# Rounding to binary64

`rounded` takes a rational number of quanta to the nearest one that has 53 bits, a whole number of
quanta again. Below `2 ^ (53 + k)` quanta it moves a number by at most half of `2 ^ k`; it keeps the
order and the sign and leaves alone what already has 53 bits. `ofQuanta` computes it, as long as the
result is not too large for a number.
-/

set_option autoImplicit false

namespace Reattempt

namespace Binary64

/-- The exponent of the distance between neighbouring numbers around a number of quanta. -/
def spacing (x : ℚ) : ℕ :=
  if ⌊|x|⌋₊ < 2 ^ 53 then 0 else ⌊|x|⌋₊.log2 - 52

def rounded (x : ℚ) : ℤ := halfEven (x / 2 ^ spacing x) * 2 ^ spacing x

theorem spacing_neg (x : ℚ) : spacing (-x) = spacing x := by
  rw [spacing, spacing, abs_neg]

theorem rounded_neg (x : ℚ) : rounded (-x) = -rounded x := by
  rw [rounded, rounded, spacing_neg, neg_div, halfEven_neg, neg_mul]

theorem abs_lt_of_spacing (x : ℚ) : |x| < 2 ^ (53 + spacing x) := by
  have next := Nat.lt_floor_add_one |x|
  unfold spacing
  by_cases small : ⌊|x|⌋₊ < 2 ^ 53
  · rw [if_pos small]
    have step : ⌊|x|⌋₊ + 1 ≤ 2 ^ 53 := small
    have step' : ((⌊|x|⌋₊ : ℕ) : ℚ) + 1 ≤ 2 ^ 53 := by exact_mod_cast step
    simpa using lt_of_lt_of_le next step'
  · rw [if_neg small]
    have bits : 53 ≤ ⌊|x|⌋₊.log2 := (Nat.le_log2 (by omega)).mpr (by omega)
    have exponent : 53 + (⌊|x|⌋₊.log2 - 52) = ⌊|x|⌋₊.log2 + 1 := by omega
    have step : ⌊|x|⌋₊ + 1 ≤ 2 ^ (⌊|x|⌋₊.log2 + 1) := Nat.lt_log2_self
    have step' : ((⌊|x|⌋₊ : ℕ) : ℚ) + 1 ≤ 2 ^ (⌊|x|⌋₊.log2 + 1) := by exact_mod_cast step
    rw [exponent]
    exact lt_of_lt_of_le next step'

theorem spacing_eq_zero_or (x : ℚ) : spacing x = 0 ∨ 2 ^ (52 + spacing x) ≤ |x| := by
  unfold spacing
  by_cases small : ⌊|x|⌋₊ < 2 ^ 53
  · exact Or.inl (if_pos small)
  · right
    rw [if_neg small]
    have bits : 53 ≤ ⌊|x|⌋₊.log2 := (Nat.le_log2 (by omega)).mpr (by omega)
    have exponent : 52 + (⌊|x|⌋₊.log2 - 52) = ⌊|x|⌋₊.log2 := by omega
    have reached : 2 ^ ⌊|x|⌋₊.log2 ≤ ⌊|x|⌋₊ := Nat.log2_self_le (by omega)
    have reached' : (2 : ℚ) ^ ⌊|x|⌋₊.log2 ≤ ((⌊|x|⌋₊ : ℕ) : ℚ) := by exact_mod_cast reached
    rw [exponent]
    exact le_trans reached' (Nat.floor_le (abs_nonneg x))

theorem spacing_le {x : ℚ} {k : ℕ} (bounded : |x| < 2 ^ (53 + k)) : spacing x ≤ k := by
  by_contra above
  rcases spacing_eq_zero_or x with least | reached
  · omega
  · have grown : (2 : ℚ) ^ (53 + k) ≤ 2 ^ (52 + spacing x) :=
      pow_le_pow_right₀ (by norm_num) (by omega)
    linarith

theorem spacing_mono {x y : ℚ} (ordered : |x| ≤ |y|) : spacing x ≤ spacing y :=
  spacing_le (lt_of_le_of_lt ordered (abs_lt_of_spacing y))

/-- Before it is scaled back, a rounded number has at most 53 bits. -/
theorem halfEven_scaled_le {x : ℚ} (nonnegative : 0 ≤ x) :
    halfEven (x / 2 ^ spacing x) ≤ 2 ^ 53 := by
  have bounded := abs_lt_of_spacing x
  rw [abs_of_nonneg nonnegative] at bounded
  rw [pow_add] at bounded
  have below : x / 2 ^ spacing x ≤ ((2 ^ 53 : ℤ) : ℚ) := by
    rw [div_le_iff₀ (by positivity)]
    push_cast
    linarith
  have kept := halfEven_mono below
  rwa [halfEven_intCast] at kept

theorem le_halfEven_scaled {x : ℚ} (nonnegative : 0 ≤ x) (spaced : spacing x ≠ 0) :
    2 ^ 52 ≤ halfEven (x / 2 ^ spacing x) := by
  have reached := (spacing_eq_zero_or x).resolve_left spaced
  rw [abs_of_nonneg nonnegative] at reached
  rw [pow_add] at reached
  have above : ((2 ^ 52 : ℤ) : ℚ) ≤ x / 2 ^ spacing x := by
    rw [le_div_iff₀ (by positivity)]
    push_cast
    linarith
  have kept := halfEven_mono above
  rwa [halfEven_intCast] at kept

theorem halfEven_scaled_nonneg {x : ℚ} (nonnegative : 0 ≤ x) :
    0 ≤ halfEven (x / 2 ^ spacing x) := by
  have kept := halfEven_mono (x := ((0 : ℤ) : ℚ)) (y := x / 2 ^ spacing x)
    (by push_cast; positivity)
  rwa [halfEven_intCast] at kept

theorem rounded_nonneg {x : ℚ} (nonnegative : 0 ≤ x) : 0 ≤ rounded x :=
  mul_nonneg (halfEven_scaled_nonneg nonnegative) (by positivity)

theorem rounded_le_of_nonneg {x y : ℚ} (nonnegative : 0 ≤ x) (ordered : x ≤ y) :
    rounded x ≤ rounded y := by
  have nonnegative' : 0 ≤ y := le_trans nonnegative ordered
  have finer : spacing x ≤ spacing y := by
    apply spacing_mono
    rwa [abs_of_nonneg nonnegative, abs_of_nonneg nonnegative']
  by_cases same : spacing x = spacing y
  · unfold rounded
    rw [same]
    apply mul_le_mul_of_nonneg_right _ (by positivity)
    apply halfEven_mono
    exact div_le_div_of_nonneg_right ordered (by positivity)
  · -- a power of two lies between the two numbers, and rounding passes over no power of two
    have low : rounded x ≤ 2 ^ 53 * 2 ^ spacing x :=
      mul_le_mul_of_nonneg_right (halfEven_scaled_le nonnegative) (by positivity)
    have high : 2 ^ 52 * 2 ^ spacing y ≤ rounded y :=
      mul_le_mul_of_nonneg_right (le_halfEven_scaled nonnegative' (by omega)) (by positivity)
    have between : (2 : ℤ) ^ (53 + spacing x) ≤ 2 ^ (52 + spacing y) :=
      pow_le_pow_right₀ (by norm_num) (by omega)
    rw [pow_add, pow_add] at between
    omega

theorem rounded_mono {x y : ℚ} (ordered : x ≤ y) : rounded x ≤ rounded y := by
  by_cases nonnegative : 0 ≤ x
  · exact rounded_le_of_nonneg nonnegative ordered
  · by_cases above : 0 ≤ y
    · have low : 0 ≤ rounded (-x) := rounded_nonneg (by linarith)
      have high : 0 ≤ rounded y := rounded_nonneg above
      rw [rounded_neg] at low
      omega
    · have mirrored := rounded_le_of_nonneg (x := -y) (y := -x) (by linarith) (by linarith)
      rw [rounded_neg, rounded_neg] at mirrored
      omega

/-- What has 53 bits is left as it is. -/
theorem rounded_exact {mantissa : ℤ} (bits : |mantissa| < 2 ^ 53) (shift : ℕ) :
    rounded ((mantissa * 2 ^ shift : ℤ) : ℚ) = mantissa * 2 ^ shift := by
  have finer : spacing ((mantissa * 2 ^ shift : ℤ) : ℚ) ≤ shift := by
    apply spacing_le
    have bits' : |(mantissa : ℚ)| < 2 ^ 53 := by exact_mod_cast bits
    push_cast
    rw [abs_mul, abs_of_pos (by positivity : (0 : ℚ) < 2 ^ shift), pow_add]
    exact mul_lt_mul_of_pos_right bits' (by positivity)
  obtain ⟨rest, sum⟩ := Nat.exists_eq_add_of_le finer
  unfold rounded
  generalize spacing ((mantissa * 2 ^ shift : ℤ) : ℚ) = taken at *
  have whole : ((mantissa * 2 ^ shift : ℤ) : ℚ) / 2 ^ taken = ((mantissa * 2 ^ rest : ℤ) : ℚ) := by
    rw [sum, pow_add]
    push_cast
    field_simp
  rw [whole, halfEven_intCast, sum, pow_add]
  ring

theorem rounded_near_of_lt {x : ℚ} {k : ℕ} (bounded : |x| < 2 ^ (53 + k)) :
    |(rounded x : ℚ) - x| ≤ 2 ^ k / 2 := by
  have positive : (0 : ℚ) < 2 ^ spacing x := by positivity
  have near := halfEven_near (x / 2 ^ spacing x)
  have scaled : (rounded x : ℚ) - x =
      ((halfEven (x / 2 ^ spacing x) : ℚ) - x / 2 ^ spacing x) * 2 ^ spacing x := by
    unfold rounded
    push_cast
    field_simp
  have finer : (2 : ℚ) ^ spacing x ≤ 2 ^ k :=
    pow_le_pow_right₀ (by norm_num) (spacing_le bounded)
  rw [scaled, abs_mul, abs_of_pos positive]
  calc |(halfEven (x / 2 ^ spacing x) : ℚ) - x / 2 ^ spacing x| * 2 ^ spacing x
      ≤ 1 / 2 * 2 ^ spacing x := mul_le_mul_of_nonneg_right near positive.le
    _ ≤ 2 ^ k / 2 := by linarith

theorem rounded_near {x : ℚ} {k : ℕ} (bounded : |x| ≤ 2 ^ (53 + k)) :
    |(rounded x : ℚ) - x| ≤ 2 ^ k / 2 := by
  rcases lt_or_eq_of_le bounded with below | reached
  · exact rounded_near_of_lt below
  · have exact : rounded ((1 * 2 ^ (53 + k) : ℤ) : ℚ) = 1 * 2 ^ (53 + k) :=
      rounded_exact (by norm_num) (53 + k)
    have kept : (rounded ((2 : ℚ) ^ (53 + k)) : ℚ) = 2 ^ (53 + k) := by
      push_cast at exact
      rw [one_mul, one_mul] at exact
      rw [exact]
      push_cast
      rfl
    have unmoved : (rounded x : ℚ) = x := by
      rcases abs_choice x with up | down
      · rw [← up, reached, kept]
      · have mirrored : x = -(2 ^ (53 + k)) := by linarith
        rw [mirrored, rounded_neg, Int.cast_neg, kept]
    rw [unmoved, sub_self, abs_zero]
    positivity

/-! ## Packing -/

/-- A number of quanta from which on nothing is finite. It is closed, since no proof gains from its
digits. -/
@[irreducible] def limit : ℕ := 2 ^ 2098

theorem limit_pos : 0 < limit := by
  unfold limit
  generalize 2098 = exponent
  exact Nat.two_pow_pos exponent

/-- The shift stays in range as long as a number with all its bits is below the limit. -/
theorem shift_le_of_lt_limit {mantissa shift : ℕ} (leading : 2 ^ 52 ≤ mantissa)
    (bounded : mantissa * 2 ^ shift < limit) : shift ≤ 2045 := by
  by_contra past
  have grown : 2 ^ 52 * 2 ^ shift ≤ mantissa * 2 ^ shift := Nat.mul_le_mul_right _ leading
  have reached : limit ≤ 2 ^ (52 + shift) := by
    unfold limit
    gcongr
    · norm_num
    · omega
  rw [pow_add] at reached
  omega

theorem canonical_lt_limit {mantissa shift : ℕ} (canonical : Canonical mantissa shift) :
    mantissa * 2 ^ shift < limit := by
  obtain ⟨bits, inRange, _⟩ := canonical
  have bits' : mantissa < 2 ^ 53 := bits
  have reached : 2 ^ (53 + shift) ≤ limit := by
    unfold limit
    gcongr
    · norm_num
    · omega
  rw [pow_add] at reached
  have below : mantissa * 2 ^ shift < 2 ^ 53 * 2 ^ shift :=
    Nat.mul_lt_mul_of_pos_right bits' (Nat.two_pow_pos shift)
  omega

/-- A mantissa of 53 bits is packed as it is, and the one past them moves to the next shift. -/
theorem pack_eq {mantissa shift : ℕ} (negative : Bool) (bits : mantissa ≤ 2 ^ 53)
    (leading : shift ≠ 0 → 2 ^ 52 ≤ mantissa) :
    ∃ mantissa' shift', mantissa' * 2 ^ shift' = mantissa * 2 ^ shift ∧
      (mantissa * 2 ^ shift < limit → Canonical mantissa' shift') ∧
      pack negative mantissa shift =
        if canonical : Canonical mantissa' shift' then .finite negative mantissa' shift' canonical
        else .infinite negative := by
  unfold pack
  dsimp only
  by_cases carried : mantissa = Nat.pow 2 53
  · have carried' : mantissa = 2 ^ 53 := carried
    have same : 2 ^ 52 * 2 ^ (shift + 1) = mantissa * 2 ^ shift := by
      rw [carried', pow_succ]
      ring
    refine ⟨2 ^ 52, shift + 1, same, ?_, ?_⟩
    · intro bounded
      rw [← same] at bounded
      exact ⟨by decide, shift_le_of_lt_limit le_rfl bounded, Or.inr le_rfl⟩
    · simp only [if_pos carried]
      rfl
  · refine ⟨mantissa, shift, rfl, ?_, ?_⟩
    · intro bounded
      refine ⟨lt_of_le_of_ne bits carried, ?_, ?_⟩
      · by_cases least : shift = 0
        · omega
        · exact shift_le_of_lt_limit (leading least) bounded
      · by_cases least : shift = 0
        · exact Or.inl least
        · exact Or.inr (leading least)
    · simp only [if_neg carried]

theorem spacing_quotient (numerator denominator : ℕ) :
    spacing ((numerator : ℚ) / denominator) =
      if numerator / denominator < Nat.pow 2 53 then 0
      else (numerator / denominator).log2 - 52 := by
  have whole : ⌊|(numerator : ℚ) / denominator|⌋₊ = numerator / denominator := by
    rw [abs_of_nonneg (by positivity)]
    exact Rat.natFloor_natCast_div_natCast numerator denominator
  rw [spacing, whole]
  rfl

/-- A quotient of quanta is rounded before it is packed. -/
theorem ofQuanta_eq_pack (negative : Bool) (numerator : ℕ) {denominator : ℕ}
    (positive : 0 < denominator) :
    ∃ mantissa shift, ofQuanta negative numerator denominator = pack negative mantissa shift ∧
      mantissa ≤ 2 ^ 53 ∧ (shift ≠ 0 → 2 ^ 52 ≤ mantissa) ∧
      ((mantissa * 2 ^ shift : ℕ) : ℤ) = rounded ((numerator : ℚ) / denominator) := by
  have nonnegative : (0 : ℚ) ≤ (numerator : ℚ) / denominator := by positivity
  have bits := halfEven_scaled_le nonnegative
  have leading := le_halfEven_scaled nonnegative
  have scaled : (nearestEven numerator
        (denominator * Nat.pow 2 (spacing ((numerator : ℚ) / denominator))) : ℤ) =
      halfEven ((numerator : ℚ) / denominator / 2 ^ spacing ((numerator : ℚ) / denominator)) := by
    have scale : 0 < denominator * Nat.pow 2 (spacing ((numerator : ℚ) / denominator)) :=
      Nat.mul_pos positive (Nat.two_pow_pos _)
    rw [nearestEven_eq _ scale, div_div]
    push_cast [Nat.pow_eq]
    rfl
  rw [← scaled] at bits leading
  refine ⟨_, spacing ((numerator : ℚ) / denominator), ?_, by exact_mod_cast bits,
    fun spaced => by exact_mod_cast leading spaced, ?_⟩
  · rw [ofQuanta]
    simp only [← spacing_quotient]
  · rw [rounded, ← scaled]
    push_cast
    rfl

theorem ofQuanta_finite {numerator denominator : ℕ} (negative : Bool) (positive : 0 < denominator)
    (bounded : rounded ((numerator : ℚ) / denominator) < limit) :
    (ofQuanta negative numerator denominator).isFinite = true ∧
      (ofQuanta negative numerator denominator).quanta =
        if negative then -rounded ((numerator : ℚ) / denominator)
        else rounded ((numerator : ℚ) / denominator) := by
  obtain ⟨mantissa, shift, packed, bits, leading, worth⟩ :=
    ofQuanta_eq_pack negative numerator positive
  obtain ⟨mantissa', shift', same, fits, written⟩ := pack_eq negative bits leading
  rw [← worth] at bounded
  have canonical := fits (by exact_mod_cast bounded)
  rw [packed, written, dif_pos canonical, ← worth, ← same]
  exact ⟨rfl, rfl⟩

theorem ofQuanta_infinite {numerator denominator : ℕ} (negative : Bool)
    (positive : 0 < denominator) (unbounded : limit ≤ rounded ((numerator : ℚ) / denominator)) :
    ofQuanta negative numerator denominator = .infinite negative := by
  obtain ⟨mantissa, shift, packed, bits, leading, worth⟩ :=
    ofQuanta_eq_pack negative numerator positive
  obtain ⟨mantissa', shift', same, fits, written⟩ := pack_eq negative bits leading
  rw [← worth, ← same] at unbounded
  have tooLarge : ¬ Canonical mantissa' shift' := by
    intro canonical
    have below := canonical_lt_limit canonical
    have above : limit ≤ mantissa' * 2 ^ shift' := by exact_mod_cast unbounded
    omega
  rw [packed, written, dif_neg tooLarge]

end Binary64
end Reattempt
