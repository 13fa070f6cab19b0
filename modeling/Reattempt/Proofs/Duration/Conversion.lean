import Mathlib.Tactic
import Reattempt.Proofs.Binary64.Arithmetic

/-!
# Durations and seconds

A duration has the value nearest to its seconds. On the way back the whole seconds are exact and the
rest of less than a second is rounded twice, as a number and to a microsecond, so that seconds come
back to within a little more than half a microsecond (`microsecondsOf_near`) and in their order
(`microsecondsOf_mono`).
-/

set_option autoImplicit false

namespace Reattempt

namespace Binary64

theorem quanta_eq_natAbs {x : Binary64} (nonnegative : 0 ≤ x.value) :
    x.quanta = x.quanta.natAbs := by
  have scaled : (0 : ℚ) ≤ x.quanta := by
    rw [cast_quanta]
    exact mul_nonneg nonnegative scale_pos.le
  have above : 0 ≤ x.quanta := by exact_mod_cast scaled
  omega

theorem value_eq_quotient {x : Binary64} (nonnegative : 0 ≤ x.value) :
    x.value = (x.quanta.natAbs : ℚ) / (unit : ℕ) := by
  rw [cast_unit, value]
  congr 1
  rw [← Int.cast_natCast, ← quanta_eq_natAbs nonnegative]

theorem truncate_eq {x : Binary64} (nonnegative : 0 ≤ x.value) : x.truncate = ⌊x.value⌋ := by
  rw [value_eq_quotient nonnegative, Rat.floor_natCast_div_natCast, truncate,
    quanta_eq_natAbs nonnegative, Int.natAbs_natCast, Int.tdiv_eq_ediv_of_nonneg (by positivity)]

/-- What the whole part leaves has no more bits than the number. -/
theorem nearest_fract {x : Binary64} (nonnegative : 0 ≤ x.value) :
    nearest (Int.fract x.value) = Int.fract x.value := by
  cases x with
  | nan => simp [value, quanta]
  | infinite negative => simp [value, quanta]
  | finite negative mantissa shift canonical =>
      have bits : mantissa < 2 ^ 53 := canonical.1
      have worth := value_eq_quotient nonnegative
      rw [natAbs_quanta_finite, cast_unit] at worth
      by_cases whole : 1074 ≤ shift
      · -- all bits are worth at least one
        obtain ⟨rest, sum⟩ := Nat.exists_eq_add_of_le whole
        have integral : (finite negative mantissa shift canonical).value =
            ((mantissa * 2 ^ rest : ℤ) : ℚ) := by
          have split : scale = 2 ^ 1074 * 2 ^ 0 := scale_eq rfl
          rw [worth, split, sum]
          push_cast
          rw [pow_add]
          generalize 1074 = places
          field_simp
        rw [integral, Int.fract_intCast, nearest_zero]
      · have fine : 1074 - shift ≤ 1074 := by omega
        have split : scale = 2 ^ shift * 2 ^ (1074 - shift) := scale_eq (by omega)
        have dyadic : (finite negative mantissa shift canonical).value =
            (mantissa : ℚ) / ((2 ^ (1074 - shift) : ℕ) : ℚ) := by
          rw [worth, split]
          push_cast
          field_simp
        have part : Int.fract (finite negative mantissa shift canonical).value =
            ((mantissa % 2 ^ (1074 - shift) : ℕ) : ℤ) / 2 ^ (1074 - shift) := by
          rw [dyadic, Int.fract_div_natCast_eq_div_natCast_mod]
          push_cast
          rfl
        have fewer : mantissa % 2 ^ (1074 - shift) ≤ mantissa := Nat.mod_le _ _
        rw [part]
        refine nearest_dyadic ?_ fine
        rw [abs_of_nonneg (by positivity)]
        exact_mod_cast lt_of_le_of_lt fewer bits

theorem fraction_value {x : Binary64} (finite : x.isFinite = true) (nonnegative : 0 ≤ x.value) :
    x.fraction.isFinite = true ∧ x.fraction.value = Int.fract x.value := by
  have least := Int.fract_nonneg x.value
  have most := Int.fract_lt_one x.value
  have exact := nearest_fract nonnegative
  have part : Int.fract x.value = ((x.quanta.natAbs % unit : ℕ) : ℚ) / scale := by
    rw [value_eq_quotient nonnegative, Int.fract_div_natCast_eq_div_natCast_mod, cast_unit]
  have moderate : |Int.fract x.value| ≤ 2 ^ 100 := by
    rw [abs_of_nonneg least]
    have larger : (1 : ℚ) ≤ 2 ^ 100 := by norm_num
    linarith
  have positive := scale_pos
  cases x with
  | nan => cases finite
  | infinite negative => cases finite
  | finite negative mantissa shift canonical =>
      rw [natAbs_quanta_finite] at part
      rw [← exact]
      refine ofQuanta_value one_pos ?_ ?_ moderate
      · rw [abs_of_nonneg least, part, Nat.cast_one, div_one]
        field_simp
        rfl
      · cases negative with
        | false => exact least
        | true =>
            have sign := value_sign (.finite true mantissa shift canonical)
            simp only [isNegative, if_true] at sign
            have none : (Binary64.finite true mantissa shift canonical).value = 0 :=
              le_antisymm sign nonnegative
            rw [if_pos rfl, none, Int.fract_zero]

end Binary64

namespace Duration

open Binary64

def inSeconds (duration : Duration) : ℚ := duration.microseconds / 10 ^ 6

theorem abs_inSeconds_lt (duration : Duration) : |duration.inSeconds| < 2 ^ 47 := by
  obtain ⟨low, high⟩ := duration.inRange
  have low' : (-86399999913600000000 : ℚ) ≤ duration.microseconds := by exact_mod_cast low
  have high' : (duration.microseconds : ℚ) ≤ 86399999999999999999 := by exact_mod_cast high
  unfold inSeconds
  rw [abs_lt]
  constructor <;> linarith

theorem toSeconds_value (duration : Duration) :
    duration.toSeconds.isFinite = true ∧
      duration.toSeconds.value = nearest duration.inSeconds := by
  have same : (duration.microseconds : ℚ) / (perSecond : ℕ) = duration.inSeconds := by
    unfold inSeconds perSecond
    norm_num
  have moderate : |duration.inSeconds| ≤ 2 ^ 100 :=
    duration.abs_inSeconds_lt.le.trans (by norm_num)
  rw [← same] at moderate ⊢
  exact ofRatio_value (by decide) moderate

theorem toSeconds_mono {a b : Duration} (ordered : a.microseconds ≤ b.microseconds) :
    a.toSeconds.value ≤ b.toSeconds.value := by
  rw [a.toSeconds_value.2, b.toSeconds_value.2]
  have ordered' : (a.microseconds : ℚ) ≤ b.microseconds := by exact_mod_cast ordered
  exact nearest_mono (div_le_div_of_nonneg_right ordered' (by norm_num))

theorem zero_toSeconds : Duration.zero.toSeconds.value = 0 := by
  rw [Duration.zero.toSeconds_value.2]
  simp [inSeconds, Duration.zero]

theorem toSeconds_nonneg {duration : Duration} (nonnegative : 0 ≤ duration.microseconds) :
    0 ≤ duration.toSeconds.value := by
  rw [← zero_toSeconds]
  exact toSeconds_mono nonnegative

/-- No duration is longer than a thousand million days. -/
theorem toSeconds_le (duration : Duration) : duration.toSeconds.value ≤ 86400000000000 := by
  have most : duration.inSeconds ≤ ((86400000000000 : ℤ) : ℚ) := by
    have high : (duration.microseconds : ℚ) ≤ 86399999999999999999 := by
      exact_mod_cast duration.inRange.2
    unfold inSeconds
    push_cast
    linarith
  rw [duration.toSeconds_value.2]
  have bounded := nearest_le_intCast (by norm_num) most
  exact_mod_cast bounded

theorem abs_toSeconds_le (duration : Duration) : |duration.toSeconds.value| ≤ 2 ^ 47 := by
  have within : |duration.inSeconds| ≤ ((2 ^ 47 : ℤ) : ℚ) := by
    push_cast
    exact duration.abs_inSeconds_lt.le
  rw [duration.toSeconds_value.2]
  have bounded := abs_nearest_le (by norm_num) within
  exact_mod_cast bounded

theorem toSeconds_pos {duration : Duration} (positive : 0 < duration.microseconds) :
    0 < duration.toSeconds.value := by
  have least : (1 : ℚ) / 10 ^ 6 ≤ duration.inSeconds := by
    have step : (1 : ℚ) ≤ duration.microseconds := by exact_mod_cast positive
    unfold inSeconds
    exact div_le_div_of_nonneg_right step (by norm_num)
  have kept := nearest_mono least
  have near := nearest_near (v := 1 / 10 ^ 6) (k := 0) (by norm_num)
  rw [duration.toSeconds_value.2]
  have low := (abs_le.mp near).1
  norm_num at low
  linarith

/-- The microseconds in a number of seconds before they are rounded to a whole number: the whole
seconds are exact, the rest is a rounded product. -/
def microsecondsNear (v : ℚ) : ℚ := ⌊v⌋ * 10 ^ 6 + nearest (Int.fract v * 10 ^ 6)

theorem microsecondsNear_near (v : ℚ) : |microsecondsNear v - v * 10 ^ 6| ≤ 2 ^ 20 / 2 ^ 54 := by
  have least := Int.fract_nonneg v
  have most := Int.fract_lt_one v
  have bounded : |Int.fract v * 10 ^ 6| ≤ 2 ^ 20 := by
    rw [abs_of_nonneg (by positivity)]
    linarith
  have near := nearest_near bounded
  have split := Int.floor_add_fract v
  have same : microsecondsNear v - v * 10 ^ 6 =
      nearest (Int.fract v * 10 ^ 6) - Int.fract v * 10 ^ 6 := by
    unfold microsecondsNear
    linear_combination 10 ^ 6 * split
  rw [same]
  exact near

theorem microsecondsNear_mono {v w : ℚ} (ordered : v ≤ w) :
    microsecondsNear v ≤ microsecondsNear w := by
  unfold microsecondsNear
  by_cases same : ⌊v⌋ = ⌊w⌋
  · have parts : Int.fract v ≤ Int.fract w := by
      unfold Int.fract
      rw [same]
      linarith
    have kept := nearest_mono (mul_le_mul_of_nonneg_right parts (by norm_num : (0 : ℚ) ≤ 10 ^ 6))
    rw [same]
    linarith
  · -- a whole second lies between the two
    have floors := Int.floor_mono ordered
    have step : ⌊v⌋ + 1 ≤ ⌊w⌋ := by omega
    have step' : (⌊v⌋ : ℚ) + 1 ≤ ⌊w⌋ := by exact_mod_cast step
    have most : Int.fract v * 10 ^ 6 ≤ ((1000000 : ℤ) : ℚ) := by
      have below := Int.fract_lt_one v
      push_cast
      linarith
    have high := nearest_mono most
    rw [nearest_intCast (by norm_num)] at high
    push_cast at high
    have low : 0 ≤ nearest (Int.fract w * 10 ^ 6) :=
      nearest_nonneg (mul_nonneg (Int.fract_nonneg w) (by norm_num))
    linarith

theorem microsecondsOf_eq {x : Binary64} (finite : x.isFinite = true)
    (nonnegative : 0 ≤ x.value) : microsecondsOf x = halfEven (microsecondsNear x.value) := by
  obtain ⟨partFinite, partValue⟩ := fraction_value finite nonnegative
  obtain ⟨million, millionValue⟩ := ofInt_value (show |(perSecond : ℤ)| < 2 ^ 53 by decide)
  have positive := scale_pos
  have least := Int.fract_nonneg x.value
  have most := Int.fract_lt_one x.value
  have factor : (((perSecond : ℕ) : ℤ) : ℚ) = 10 ^ 6 := by
    unfold perSecond
    norm_num
  rw [factor] at millionValue
  have moderate : |x.fraction.value * (ofInt perSecond).value| ≤ 2 ^ 100 := by
    rw [partValue, millionValue, abs_of_nonneg (mul_nonneg least (by norm_num))]
    have larger : (10 : ℚ) ^ 6 ≤ 2 ^ 100 := by norm_num
    linarith
  obtain ⟨-, restValue⟩ := mul_value partFinite million moderate
  rw [partValue, millionValue] at restValue
  have total : ((x.truncate * perSecond * unit +
        (x.fraction * ofInt perSecond).quanta : ℤ) : ℚ) / (unit : ℕ) =
      microsecondsNear x.value := by
    unfold microsecondsNear
    rw [← restValue, truncate_eq nonnegative, Int.cast_add, Int.cast_mul, Int.cast_mul, factor,
      Int.cast_natCast, cast_unit, cast_quanta]
    field_simp
  unfold microsecondsOf
  dsimp only
  rw [nearestEvenInt_eq _ unit_pos, total]

theorem microsecondsOf_mono {x y : Binary64} (first : x.isFinite = true)
    (second : y.isFinite = true) (nonnegative : 0 ≤ x.value) (ordered : x.value ≤ y.value) :
    microsecondsOf x ≤ microsecondsOf y := by
  rw [microsecondsOf_eq first nonnegative, microsecondsOf_eq second (le_trans nonnegative ordered)]
  exact halfEven_mono (microsecondsNear_mono ordered)

theorem microsecondsOf_near {x : Binary64} (finite : x.isFinite = true)
    (nonnegative : 0 ≤ x.value) :
    |(microsecondsOf x : ℚ) - x.value * 10 ^ 6| ≤ 1 / 2 + 2 ^ 20 / 2 ^ 54 := by
  rw [microsecondsOf_eq finite nonnegative]
  have whole := halfEven_near (microsecondsNear x.value)
  have near := microsecondsNear_near x.value
  calc |(halfEven (microsecondsNear x.value) : ℚ) - x.value * 10 ^ 6|
      = |((halfEven (microsecondsNear x.value) : ℚ) - microsecondsNear x.value) +
          (microsecondsNear x.value - x.value * 10 ^ 6)| := by rw [sub_add_sub_cancel]
    _ ≤ _ := le_trans (abs_add_le _ _) (add_le_add whole near)

/-- Seconds that are close enough to a whole number of microseconds are converted into it. -/
theorem microsecondsOf_eq_of_near {x : Binary64} {count : ℤ} (finite : x.isFinite = true)
    (nonnegative : 0 ≤ x.value) (near : |x.value * 10 ^ 6 - count| < 1 / 2 - 2 ^ 20 / 2 ^ 54) :
    microsecondsOf x = count := by
  rw [microsecondsOf_eq finite nonnegative]
  apply halfEven_eq
  have rest := microsecondsNear_near x.value
  calc |microsecondsNear x.value - count|
      = |(microsecondsNear x.value - x.value * 10 ^ 6) + (x.value * 10 ^ 6 - count)| := by
        rw [sub_add_sub_cancel]
    _ ≤ |microsecondsNear x.value - x.value * 10 ^ 6| + |x.value * 10 ^ 6 - count| :=
        abs_add_le _ _
    _ < 1 / 2 := by linarith

theorem microsecondsOf_min {x y z : Binary64} (first : x.isFinite = true)
    (second : y.isFinite = true) (third : z.isFinite = true) (firstLeast : 0 ≤ x.value)
    (secondLeast : 0 ≤ y.value) (worth : z.value = min x.value y.value) :
    microsecondsOf z = min (microsecondsOf x) (microsecondsOf y) := by
  have thirdLeast : 0 ≤ z.value := by
    rw [worth]
    exact le_min firstLeast secondLeast
  rcases le_total x.value y.value with ordered | ordered
  · rw [min_eq_left ordered] at worth
    rw [min_eq_left (microsecondsOf_mono first second firstLeast ordered),
      microsecondsOf_eq third thirdLeast, microsecondsOf_eq first firstLeast, worth]
  · rw [min_eq_right ordered] at worth
    rw [min_eq_right (microsecondsOf_mono second first secondLeast ordered),
      microsecondsOf_eq third thirdLeast, microsecondsOf_eq second secondLeast, worth]

theorem ofSeconds_of_finite {x : Binary64} (finite : x.isFinite = true) :
    ofSeconds x = ofMicroseconds (microsecondsOf x) := by
  cases x with
  | nan => cases finite
  | infinite negative => cases finite
  | finite negative mantissa shift canonical => rw [ofSeconds] <;> simp

end Duration
end Reattempt
