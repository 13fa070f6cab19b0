import Mathlib.Tactic
import Reattempt.Proofs.Binary64.Order
import Reattempt.Proofs.Builder.Invariant
import Reattempt.Proofs.Delay.Seconds

/-!
# Bounds of delays

No delay is below zero, whatever the numbers drawn: they need not lie in the unit interval, not even
be finite. Without jitter and without a maximal duration a delay lies between the configured ones
after these have gone through seconds, and growing delays do not decrease from one attempt to the
next (`compute_bounds`).
-/

set_option autoImplicit false

namespace Reattempt

/-- What is asked of the powers of the platform, for bases above one: they start with one and do not
decrease with the exponent. -/
structure Power.Ordered (power : Power) : Prop where
  increasing : ∀ base exponent exponent', Binary64.ofInt 1 < base →
    Binary64.ofInt 0 ≤ exponent → exponent ≤ exponent' →
      power base exponent ≤ power base exponent'
  start : ∀ base, Binary64.ofInt 1 < base → power base (Binary64.ofInt 0) = Binary64.ofInt 1

theorem Power.Ordered.growing {power : Power} (ordered : power.Ordered) : power.Growing := by
  intro base exponent above nonnegative
  have least := ordered.increasing base _ _ above (by decide +kernel) nonnegative
  rwa [ordered.start base above] at least

def Power.Overflows (power : Power) (factor : Binary64) (attemptNumber : ℤ) : Prop :=
  let exponent := Binary64.ofInt (max (attemptNumber - 1) 0)
  exponent.isFinite = false ∨ (power factor exponent).isFinite = false

/-- The microseconds that a duration comes to when it goes through seconds. -/
def Duration.converted (duration : Duration) : ℤ := Duration.microsecondsOf duration.toSeconds

structure Settings.Plain (settings : Settings) : Prop where
  jitter : settings.jitter = none
  jitterFactor : settings.jitterFactor = none
  maxDuration : settings.maxDuration = none

namespace Delay

open RandomSource Binary64 Duration

variable {ρ : Type} [RandomSource ρ]
variable {power : Power} {settings : Settings} {history : History} {source : ρ}

/-! ## Growing delays -/

theorem raised?_eq_none_iff {factor : Binary64} {exponent : ℤ} :
    raised? power factor exponent = none ↔
      (ofInt exponent).isFinite = false ∨
        (factor.isFinite = true ∧ (power factor (ofInt exponent)).isFinite = false) := by
  unfold raised?
  cases finite : (ofInt exponent).isFinite with
  | false => simp [finite]
  | true => simp [finite]

/-- A power that is out of range stays so for greater exponents. -/
theorem raised?_none_mono {factor : Binary64} {exponent exponent' : ℤ} (ordered : power.Ordered)
    (above : ofInt 1 < factor) (nonnegative : 0 ≤ exponent) (later : exponent ≤ exponent')
    (nothing : raised? power factor exponent = none) : raised? power factor exponent' = none := by
  have exponents := ofInt_mono nonnegative later
  have started := ofInt_mono le_rfl nonnegative
  rw [raised?_eq_none_iff] at nothing ⊢
  rcases nothing with tooLarge | ⟨finite, tooLarge⟩
  · obtain ⟨count, rfl⟩ := Int.eq_ofNat_of_zero_le nonnegative
    exact Or.inl (not_finite_of_le exponents (isNegative_ofInt_natCast count) tooLarge)
  · have powers := ordered.increasing factor _ _ above started exponents
    have grown := atLeast_one_of_le (ordered.growing factor _ above started)
    exact Or.inr ⟨finite, not_finite_of_le powers grown.isNegative tooLarge⟩

section Backoff

variable {delay cap factor : Binary64}

theorem backoffSeconds_of_none {attemptNumber : ℤ}
    (nothing : raised? power factor (max (attemptNumber - 1) 0) = none) :
    backoffSeconds power delay cap factor attemptNumber = cap := by
  unfold backoffSeconds
  rw [nothing]
  rfl

theorem backoffSeconds_of_some {attemptNumber : ℤ} {raised : Binary64}
    (found : raised? power factor (max (attemptNumber - 1) 0) = some raised) :
    backoffSeconds power delay cap factor attemptNumber =
      Binary64.smaller (delay * raised) cap := by
  unfold backoffSeconds
  rw [found]
  rfl

structure Grows (delay cap factor : Binary64) : Prop where
  above : ofInt 1 < factor
  delayFinite : delay.isFinite = true
  capFinite : cap.isFinite = true
  positive : 0 < delay.value
  ordered : delay.value ≤ cap.value
  bounded : cap.value ≤ 2 ^ 47

theorem grows_of_consistent {cap : Duration} (consistent : settings.Consistent)
    (positive : .zero < settings.delay) (increasing : settings.delay < cap) :
    Grows settings.delay.toSeconds cap.toSeconds settings.delayFactor where
  above := consistent.factor_above_one
  delayFinite := settings.delay.toSeconds_value.1
  capFinite := cap.toSeconds_value.1
  positive := Duration.toSeconds_pos positive
  ordered := Duration.toSeconds_mono (Int.le_of_lt increasing)
  bounded := (le_abs_self _).trans cap.abs_toSeconds_le

theorem Grows.bounds (grows : Grows delay cap factor) (growing : power.Growing)
    (attemptNumber : ℤ) :
    (backoffSeconds power delay cap factor attemptNumber).isFinite = true ∧
      delay.value ≤ (backoffSeconds power delay cap factor attemptNumber).value ∧
      (backoffSeconds power delay cap factor attemptNumber).value ≤ cap.value :=
  backoffSeconds_bounds growing grows.above grows.delayFinite grows.capFinite grows.positive
    grows.ordered attemptNumber

/-- The first retry waits for the unscaled delay. -/
theorem Grows.first (grows : Grows delay cap factor) (ordered : power.Ordered)
    {attemptNumber : ℤ} (first : attemptNumber ≤ 1) :
    (backoffSeconds power delay cap factor attemptNumber).value = delay.value := by
  obtain ⟨zeroFinite, -⟩ := ofInt_zero
  obtain ⟨oneFinite, oneValue⟩ := ofInt_one
  have exponent : max (attemptNumber - 1) 0 = 0 := max_eq_right (by omega)
  have found : raised? power factor (max (attemptNumber - 1) 0) = some (ofInt 1) := by
    have started := ordered.start factor grows.above
    unfold raised?
    simp [exponent, zeroFinite, started, oneFinite]
  have moderate : |delay.value * (ofInt 1).value| ≤ 2 ^ 100 := by
    have most := grows.ordered.trans grows.bounded
    have large : (2 : ℚ) ^ 47 ≤ 2 ^ 100 := by norm_num
    rw [oneValue, mul_one, abs_of_pos grows.positive]
    linarith
  obtain ⟨finite, worth⟩ := mul_value grows.delayFinite oneFinite moderate
  rw [oneValue, mul_one, nearest_value] at worth
  rw [backoffSeconds_of_some found, (smaller_value finite grows.capFinite).2, worth,
    min_eq_left grows.ordered]

/-- A power that is out of range gives the greatest delay. -/
theorem Grows.last (grows : Grows delay cap factor) (ordered : power.Ordered) {attemptNumber : ℤ}
    (overflows : power.Overflows factor attemptNumber) :
    backoffSeconds power delay cap factor attemptNumber = cap := by
  cases found : raised? power factor (max (attemptNumber - 1) 0) with
  | none => exact backoffSeconds_of_none found
  | some raised =>
      -- then the factor is infinite itself
      obtain ⟨finite, rfl⟩ := raised?_eq_some found
      have grown := raised?_atLeast ordered.growing grows.above (le_max_right _ _) found
      have unbounded : (power factor (ofInt (max (attemptNumber - 1) 0))).isFinite = false := by
        rcases overflows with tooLarge | tooLarge
        · rw [finite] at tooLarge
          cases tooLarge
        · exact tooLarge
      rcases grown with infinite | ⟨bounded, -⟩
      · rw [backoffSeconds_of_some found, infinite, mul_infinite grows.delayFinite grows.positive]
        exact if_pos (lt_infinite grows.capFinite)
      · rw [bounded] at unbounded
        cases unbounded

/-- Growing delays do not decrease from one attempt to a later one. -/
theorem Grows.mono (grows : Grows delay cap factor) (ordered : power.Ordered) {earlier later : ℤ}
    (order : earlier ≤ later) :
    (backoffSeconds power delay cap factor earlier).value ≤
      (backoffSeconds power delay cap factor later).value := by
  obtain ⟨finite, -, most⟩ := grows.bounds ordered.growing earlier
  obtain ⟨finite', -, -⟩ := grows.bounds ordered.growing later
  have exponents : max (earlier - 1) 0 ≤ max (later - 1) 0 := by omega
  have nonnegative : 0 ≤ max (earlier - 1) 0 := le_max_right _ _
  cases found' : raised? power factor (max (later - 1) 0) with
  | none =>
      rw [backoffSeconds_of_none found']
      exact most
  | some raised' =>
      cases found : raised? power factor (max (earlier - 1) 0) with
      | none =>
          -- powers do not come back into range
          rw [raised?_none_mono ordered grows.above nonnegative exponents found] at found'
          cases found'
      | some raised =>
          have grown := raised?_atLeast ordered.growing grows.above nonnegative found
          have powers : raised ≤ raised' := by
            rw [(raised?_eq_some found).2, (raised?_eq_some found').2]
            exact ordered.increasing factor _ _ grows.above (ofInt_mono le_rfl nonnegative)
              (ofInt_mono nonnegative exponents)
          have products := mul_le_mul_left grows.delayFinite grows.positive grown powers
          have kept := smaller_mono products grows.capFinite
          rw [← le_iff finite finite', backoffSeconds_of_some found, backoffSeconds_of_some found']
          exact kept

end Backoff

/-! ## Not below zero -/

theorem not_below_of_nonneg {x : Binary64} (finite : x.isFinite = true)
    (nonnegative : 0 ≤ x.value) : ¬ x < .zero := by
  have zeroFinite : zero.isFinite = true := rfl
  rw [lt_iff finite zeroFinite, zero_value]
  exact not_lt.mpr nonnegative

theorem smaller_not_below {x y : Binary64} (first : ¬ x < .zero) (second : ¬ y < .zero) :
    ¬ Binary64.smaller x y < .zero := by
  unfold Binary64.smaller
  split
  · exact second
  · exact first

/-- Raised to a bound that is not below zero, no number is below zero. -/
theorem larger_not_below {low : Binary64} (x : Binary64) (finite : low.isFinite = true)
    (above : ¬ low < .zero) : ¬ larger x low < .zero := by
  have zeroFinite : zero.isFinite = true := rfl
  unfold larger
  by_cases raised : x < low
  · rw [if_pos raised]
    exact above
  · rw [if_neg raised]
    intro below
    -- below zero it would be below the bound as well, and be raised
    have least : .zero ≤ low := by
      rw [lt_iff finite zeroFinite] at above
      rw [le_iff zeroFinite finite]
      exact not_lt.mp above
    exact raised (lt_of_lt_le below least)

theorem larger_zero_not_below (x : Binary64) : ¬ larger x .zero < .zero :=
  larger_not_below x rfl (not_below_of_nonneg rfl zero_value.ge)

theorem baseSeconds_not_below (consistent : settings.Consistent) (growing : power.Growing)
    (attemptNumber : ℤ) : ¬ (baseSeconds power settings attemptNumber source).1 < .zero := by
  have shaped := consistent.shaped
  generalize mode : settings.delayMode = chosen at shaped
  cases shaped with
  | none unbounded capless nothing =>
      rw [baseSeconds_of_none mode]
      exact larger_zero_not_below .zero
  | fixed unbounded capless positive =>
      rw [baseSeconds_of_fixed mode]
      dsimp only
      exact not_below_of_nonneg settings.delay.toSeconds_value.1
        (Duration.toSeconds_pos positive).le
  | random low high bounded positive increasing =>
      rw [baseSeconds_of_random mode, bounded.1, bounded.2, Option.getD_some, Option.getD_some,
        randomSeconds_eq]
      dsimp only
      have least := Duration.toSeconds_pos positive
      have most := Duration.toSeconds_mono (Int.le_of_lt increasing)
      have above := not_below_of_nonneg low.toSeconds_value.1 least.le
      exact smaller_not_below (larger_not_below _ low.toSeconds_value.1 above)
        (not_below_of_nonneg high.toSeconds_value.1 (least.le.trans most))
  | backoff cap unbounded capped positive increasing =>
      have grows := grows_of_consistent consistent positive increasing
      obtain ⟨finite, least, -⟩ := grows.bounds growing attemptNumber
      rw [baseSeconds_of_backoff mode, capped, Option.getD_some]
      dsimp only
      exact not_below_of_nonneg finite (grows.positive.le.trans least)

theorem jittered_not_below {base : Binary64} (above : ¬ base < .zero) :
    ¬ (jittered settings base source).1 < .zero := by
  cases moved : spread? settings base with
  | none =>
      rw [jittered_of_none moved]
      exact above
  | some spread =>
      rw [jittered_of_some moved]
      exact larger_zero_not_below _

theorem clamped_not_below (elapsed : Duration) {x : Binary64} (above : ¬ x < .zero) :
    ¬ clamped settings elapsed x < .zero := by
  unfold clamped
  split
  · exact above
  · exact smaller_not_below above (larger_zero_not_below _)

/-- The seconds of a delay are not below zero, whatever the source gives. -/
theorem seconds_not_below (consistent : settings.Consistent) (growing : power.Growing) :
    ¬ (seconds power settings history source).1 < .zero :=
  clamped_not_below _ (jittered_not_below (baseSeconds_not_below consistent growing _))

/-! ## Delays of each mode -/

theorem microsecondsOf_congr {x y : Binary64} (first : x.isFinite = true)
    (second : y.isFinite = true) (nonnegative : 0 ≤ x.value) (same : x.value = y.value) :
    microsecondsOf x = microsecondsOf y := by
  rw [microsecondsOf_eq first nonnegative, microsecondsOf_eq second (same ▸ nonnegative), same]

theorem ofSeconds_eq_ok {x : Binary64} {delay : Duration} (converted : ofSeconds x = .ok delay) :
    x.isFinite = true ∧ delay.microseconds = microsecondsOf x := by
  cases x with
  | nan => cases converted
  | infinite negative => cases converted
  | finite negative mantissa shift canonical => exact ⟨rfl, ofMicroseconds_eq_ok converted⟩

theorem seconds_of_plain (plain : settings.Plain) :
    (seconds power settings history source).1 =
      (baseSeconds power settings history.attemptNumber source).1 := by
  have unmoved (base : Binary64) : spread? settings base = none :=
    (spread?_eq_none_iff base).mpr ⟨plain.jitter, plain.jitterFactor⟩
  rw [seconds_eq_clamped, unclamped, jittered_of_none (unmoved _), clamped, plain.maxDuration]

def KnownByMode (power : Power) (settings : Settings) (history : History) (delay : Duration) :
    DelayMode → Prop
  | .none => delay = .zero
  | .fixed => delay.microseconds = settings.delay.converted
  | .random => ∃ low high, settings.delayMin = some low ∧ settings.delayMax = some high ∧
      low.converted ≤ delay.microseconds ∧ delay.microseconds ≤ high.converted
  | .backoff => ∃ cap, settings.maxDelay = some cap ∧
      settings.delay.converted ≤ delay.microseconds ∧ delay.microseconds ≤ cap.converted ∧
      (history.attemptNumber ≤ 1 → delay.microseconds = settings.delay.converted) ∧
      (power.Overflows settings.delayFactor history.attemptNumber →
        delay.microseconds = cap.converted)

variable {delay : Duration}

theorem base_of_compute (plain : settings.Plain)
    (computed : (compute power settings history source).1 = .ok delay) :
    (baseSeconds power settings history.attemptNumber (fresh source)).1.isFinite = true ∧
      delay.microseconds =
        microsecondsOf (baseSeconds power settings history.attemptNumber (fresh source)).1 := by
  rw [compute_fst, seconds_of_plain plain] at computed
  exact ofSeconds_eq_ok computed

/-- The source can only make a random delay fail if what it gives is not a number. -/
theorem isNaN_of_clamped {x low high : Binary64}
    (finite : (Binary64.smaller (larger x low) high).isFinite = true) : x.isNaN = false := by
  cases x with
  | nan object =>
      have unmoved : larger (.nan object) low = .nan object := if_neg Bool.false_ne_true
      have still : Binary64.smaller (.nan object) high = .nan object := by
        refine if_neg fun below => ?_
        obtain ⟨m, n, -, nothing, -⟩ := lt_iff_worth.mp below
        cases nothing
      rw [unmoved, still] at finite
      cases finite
  | infinite negative => rfl
  | finite negative mantissa shift canonical => rfl

theorem random_known {low high : Duration} (nonnegative : 0 ≤ low.microseconds)
    (ordered : low.microseconds ≤ high.microseconds)
    (finite : (randomSeconds low.toSeconds high.toSeconds source).1.isFinite = true) :
    low.converted ≤ microsecondsOf (randomSeconds low.toSeconds high.toSeconds source).1 ∧
      microsecondsOf (randomSeconds low.toSeconds high.toSeconds source).1 ≤ high.converted := by
  rw [randomSeconds_eq] at finite ⊢
  dsimp only at finite ⊢
  have lowFinite := low.toSeconds_value.1
  have highFinite := high.toSeconds_value.1
  obtain ⟨-, least, most⟩ := clamp_bounds (isNaN_of_clamped finite) lowFinite highFinite
    (Duration.toSeconds_mono ordered)
  have above := toSeconds_nonneg nonnegative
  exact ⟨microsecondsOf_mono lowFinite finite above least,
    microsecondsOf_mono finite highFinite (above.trans least) most⟩

theorem knownByMode (consistent : settings.Consistent) (ordered : power.Ordered)
    (plain : settings.Plain)
    (computed : (compute power settings history source).1 = .ok delay) :
    KnownByMode power settings history delay settings.delayMode := by
  obtain ⟨finite, made⟩ := base_of_compute plain computed
  have shaped := consistent.shaped
  generalize mode : settings.delayMode = chosen at shaped
  cases shaped with
  | none unbounded capless nothing =>
      rw [baseSeconds_of_none mode] at made
      have still : microsecondsOf Binary64.zero = Duration.zero.microseconds := by decide +kernel
      rw [KnownByMode, Duration.eq_iff, made]
      exact still
  | fixed unbounded capless positive =>
      rw [baseSeconds_of_fixed mode] at made
      dsimp only at made
      exact made
  | random low high bounded positive increasing =>
      rw [baseSeconds_of_random mode, bounded.1, bounded.2, Option.getD_some,
        Option.getD_some] at finite made
      obtain ⟨least, most⟩ := random_known (Int.le_of_lt positive) (Int.le_of_lt increasing) finite
      rw [← made] at least most
      exact ⟨low, high, bounded.1, bounded.2, least, most⟩
  | backoff cap unbounded capped positive increasing =>
      have grows := grows_of_consistent consistent positive increasing
      rw [baseSeconds_of_backoff mode, capped, Option.getD_some] at made
      dsimp only at made
      obtain ⟨bounded, least, most⟩ := grows.bounds ordered.growing history.attemptNumber
      have above := grows.positive.le
      refine ⟨cap, capped, ?_, ?_, fun first => ?_, fun overflows => ?_⟩
      · rw [made]
        exact microsecondsOf_mono grows.delayFinite bounded above least
      · rw [made]
        exact microsecondsOf_mono bounded grows.capFinite (above.trans least) most
      · rw [made]
        exact microsecondsOf_congr bounded grows.delayFinite (above.trans least)
          (grows.first ordered first)
      · rw [made, grows.last ordered overflows]
        rfl

theorem growing_mono {history' : History} {source' : ρ} {delay' : Duration}
    (consistent : settings.Consistent) (ordered : power.Ordered) (plain : settings.Plain)
    (mode : settings.delayMode = .backoff)
    (order : history.attemptNumber ≤ history'.attemptNumber)
    (computed : (compute power settings history source).1 = .ok delay)
    (computed' : (compute power settings history' source').1 = .ok delay') : delay ≤ delay' := by
  obtain ⟨-, made⟩ := base_of_compute plain computed
  obtain ⟨-, made'⟩ := base_of_compute plain computed'
  rw [baseSeconds_of_backoff mode] at made made'
  have shaped := consistent.shaped
  rw [mode] at shaped
  cases shaped with
  | backoff cap unbounded capped positive increasing =>
      rw [capped, Option.getD_some] at made made'
      dsimp only at made made'
      have grows := grows_of_consistent consistent positive increasing
      obtain ⟨finite, least, -⟩ := grows.bounds ordered.growing history.attemptNumber
      obtain ⟨finite', -, -⟩ := grows.bounds ordered.growing history'.attemptNumber
      rw [Duration.le_iff, made, made']
      exact microsecondsOf_mono finite finite' (grows.positive.le.trans least)
        (grows.mono ordered order)

/-- A delay is not below zero, whatever the mode, the jitter, the limits and the numbers drawn.
Without jitter and a limit on the time it is what its mode says, and growing delays do not decrease
from one attempt to a later one. -/
theorem compute_bounds (policy : Policy) (power : Power) (history : History) (source : ρ)
    (ordered : power.Ordered)
    (computed : (compute power policy.toSettings history source).1 = .ok delay) :
    .zero ≤ delay ∧
    (policy.Plain →
      KnownByMode power policy.toSettings history delay policy.delayMode ∧
      (policy.delayMode = .backoff →
        ∀ (history' : History) (source' : ρ) (delay' : Duration),
          history.attemptNumber ≤ history'.attemptNumber →
          (compute power policy.toSettings history' source').1 = .ok delay' →
            delay ≤ delay')) := by
  have consistent := Settings.policy_consistent policy
  refine ⟨?_, fun plain => ⟨knownByMode consistent ordered plain computed, ?_⟩⟩
  · exact ofSeconds_nonneg (seconds_not_below consistent ordered.growing) computed
  · exact fun mode history' source' delay' order computed' =>
      growing_mono consistent ordered plain mode order computed computed'

/-- The powers of `10 ^ 200` to zero, which is one, and to two, which is out of range. -/
def steepPower : Power := fun _ exponent =>
  if exponent < Binary64.ofInt 1 then Binary64.ofInt 1 else .infinite false

theorem steepPower_ordered : steepPower.Ordered where
  increasing base exponent exponent' above nonnegative later := by
    unfold steepPower
    by_cases early : exponent < ofInt 1
    · rw [if_pos early]
      split
      · decide +kernel
      · exact le_infinite (by decide +kernel)
    · have late : ¬ exponent' < ofInt 1 := fun below => early (lt_of_le_lt later below)
      rw [if_neg early, if_neg late]
      exact le_infinite rfl
  start base above := by
    have early : ofInt 0 < ofInt 1 := by decide +kernel
    exact if_pos early

/-- Delays from three tenths of a second up to seven seconds, with so steep a factor that the third
attempt is out of reach. -/
def steepPolicy : Policy :=
  ⟨{ delay := ⟨300000, by decide⟩, maxDelay := some ⟨7000000, by decide⟩,
     delayFactor := Binary64.ofInt (10 ^ 200) }, by decide +kernel⟩

/-- The first delay is the unscaled one, the third is the greatest. -/
theorem compute_bounds_of_steep_growth :
    let early : History := { attemptNumber := 1 }
    let late : History := { attemptNumber := 3 }
    let least : Duration := ⟨300000, by decide⟩
    let most : Duration := ⟨7000000, by decide⟩
    steepPower.Ordered ∧ steepPolicy.Plain ∧ steepPolicy.delayMode = .backoff ∧
    (compute steepPower steepPolicy.toSettings early halves).1 = .ok least ∧
    (compute steepPower steepPolicy.toSettings late halves).1 = .ok most ∧
    .zero ≤ most ∧ steepPower.Overflows steepPolicy.delayFactor 3 ∧
    most.microseconds = most.converted ∧ least ≤ most := by
  intro early late least most
  have first : (compute steepPower steepPolicy.toSettings early halves).1 = .ok least := by
    decide +kernel
  have third : (compute steepPower steepPolicy.toSettings late halves).1 = .ok most := by
    decide +kernel
  have plain : steepPolicy.Plain := ⟨rfl, rfl, rfl⟩
  have overflows : steepPower.Overflows steepPolicy.delayFactor 3 := Or.inr (by decide +kernel)
  obtain ⟨-, known⟩ :=
    compute_bounds steepPolicy steepPower early halves steepPower_ordered first
  obtain ⟨nonnegative, known'⟩ :=
    compute_bounds steepPolicy steepPower late halves steepPower_ordered third
  obtain ⟨cap, capped, -, -, -, greatest⟩ := (known' plain).1
  cases capped
  exact ⟨steepPower_ordered, plain, rfl, first, third, nonnegative, overflows,
    greatest overflows, (known plain).2 rfl late halves most (by decide) third⟩

end Delay
end Reattempt
