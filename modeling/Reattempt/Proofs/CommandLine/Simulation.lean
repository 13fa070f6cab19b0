import Mathlib.Tactic
import Reattempt.Proofs.CommandLine.Options
import Reattempt.Proofs.PolicyFile.Loaded
import Reattempt.Proofs.Preview.Completion
import Reattempt.Proofs.Random.Twister

/-!
# What a preview prints

A preview that is completed is printed with one line for each verdict. One that breaks off prints
nothing. The checks of the options let every time pass that is not below zero, and so a preview of
an accepted policy can break off with an overflow, or with an error in the value if the time is not
a number (`simulate_finishes_iff`).
-/

set_option autoImplicit false

namespace Reattempt.CommandLine

/-! ## Lines -/

def told : Verdict → String
  | .retry delay => "retry in " ++ Decimal.placesText 3 delay.toSeconds ++ "s"
  | verdict => verdict.name

/-- These lines tell of the verdicts: one line for each between two rules, numbered from one, and
one behind the rules if the last verdict is a retry. -/
def Printed (verdicts : List Verdict) (lines : List String) : Prop :=
  ∃ numbered closing, lines = rule :: numbered ++ rule :: closing ∧
    numbered.length = verdicts.length ∧
    (∀ index verdict, verdicts[index]? = some verdict →
      numbered[index]? = some ("Attempt " ++ toString (index + 1) ++ ": " ++ told verdict)) ∧
    ((∃ last ∈ verdicts.getLast?, last.shouldRetry = true) →
      closing = ["Still retrying after " ++ toString verdicts.length ++ " simulated failures"]) ∧
    ((∀ last ∈ verdicts.getLast?, last.shouldRetry = false) → closing = [])

theorem verdictLines_cons (number : Nat) (verdict : Verdict) (verdicts : List Verdict) :
    verdictLines number (verdict :: verdicts) =
      ("Attempt " ++ toString number ++ ": " ++ told verdict) ::
        verdictLines (number + 1) verdicts := by
  cases verdict <;> rfl

theorem length_verdictLines (verdicts : List Verdict) : ∀ number : Nat,
    (verdictLines number verdicts).length = verdicts.length := by
  induction verdicts with
  | nil => exact fun number => rfl
  | cons verdict verdicts ih =>
      intro number
      rw [verdictLines_cons, List.length_cons, List.length_cons, ih]

theorem verdictLines_at (verdicts : List Verdict) : ∀ (number index : Nat) (verdict : Verdict),
    verdicts[index]? = some verdict →
      (verdictLines number verdicts)[index]? =
        some ("Attempt " ++ toString (number + index) ++ ": " ++ told verdict) := by
  induction verdicts with
  | nil => exact fun number index verdict found => by simp at found
  | cons first verdicts ih =>
      intro number index verdict found
      rw [verdictLines_cons]
      cases index with
      | zero =>
          cases found
          rfl
      | succ index =>
          rw [List.getElem?_cons_succ] at found ⊢
          rw [ih (number + 1) index verdict found, Nat.add_assoc, Nat.add_comm 1 index]

theorem printed (verdicts : List Verdict) :
    Printed verdicts (rule :: verdictLines 1 verdicts ++ rule :: stillRetrying verdicts) := by
  refine ⟨verdictLines 1 verdicts, stillRetrying verdicts, rfl, length_verdictLines verdicts 1,
    ?_, ?_, ?_⟩
  · intro index verdict found
    rw [verdictLines_at verdicts 1 index verdict found, Nat.add_comm]
  · rintro ⟨last, found, retries⟩
    rw [Option.mem_def] at found
    simp [stillRetrying, found, retries]
  · intro final
    unfold stillRetrying
    cases found : verdicts.getLast? with
    | none => rfl
    | some last => simp [final last found]

/-! ## Policies of a configuration -/

variable {surroundings : Surroundings} {config : Option String} {policy : Policy}

/-- The configuration is found valid if it describes a policy whose number of attempts can be
written. -/
theorem validate_finishes_iff :
    (perform surroundings ⟨config, .validate⟩).ending = .finished ↔
      ∃ policy, loadPolicy surroundings config = .ok policy ∧
        Decimal.isWritable policy.maxAttempts = true := by
  unfold perform
  cases loaded : loadPolicy surroundings config with
  | ok policy =>
      simp only [Except.ok.injEq, exists_eq_left', validate, Settings.description]
      cases Decimal.isWritable policy.maxAttempts <;> simp
  | error failure =>
      simp only [reduceCtorEq, false_and, exists_false, iff_false, Ending.ofFailure]
      split <;> simp

theorem exists_section (loaded : loadPolicy surroundings config = .ok policy) :
    ∃ retry : RetrySection, retry.Valid ∧
      retry.toPolicy 0 surroundings.modules = .ok policy := by
  unfold loadPolicy at loaded
  split at loaded
  · cases loaded
  · rename_i found loads
    split at loaded
    · cases loaded
    · rename_i made same
      cases loaded
      exact ⟨found.retry, PolicyFile.load_valid loads, same⟩

theorem steady_of_loaded {time : Duration} (twister : Twister)
    (loaded : loadPolicy surroundings config = .ok policy)
    (growing : surroundings.power.Growing) (notNegative : 0 ≤ time.microseconds) :
    Preview.Steady policy surroundings.power time ⟨twister⟩ := by
  obtain ⟨retry, valid, made⟩ := exists_section loaded
  exact ⟨retry.toPolicy_handlers_quiet valid made,
    retry.toPolicy_conditions_quiet valid made _ _, growing, twister.withinUnit, notNegative⟩

/-! ## Previews of a configuration -/

def Surroundings.preview (surroundings : Surroundings) (options : SimulateOptions)
    (policy : Policy) : Preview (Shared Twister) :=
  Preview.simulate policy surroundings.power options.failures.toNat
    (Duration.ofSeconds options.attemptTime) ⟨surroundings.generator options⟩

/-- The attempts of the preview take a time that is a duration, and it does not break off. -/
def Surroundings.Completes (surroundings : Surroundings) (options : SimulateOptions)
    (policy : Policy) : Prop :=
  ∃ time, Duration.ofSeconds options.attemptTime = .ok time ∧
    ¬ Preview.BreaksOff policy surroundings.power time ⟨surroundings.generator options⟩ []
      options.failures.toNat

variable {options : SimulateOptions} {verdicts : List Verdict}

theorem simulate_of_previewed
    (previewed : (surroundings.preview options policy).verdicts = .ok verdicts) :
    simulate surroundings policy options =
      { lines := rule :: verdictLines 1 verdicts ++ rule :: stillRetrying verdicts } := by
  unfold Surroundings.preview at previewed
  simp only [simulate, previewed]

theorem simulate_of_raised {failure : Failure}
    (raised : (surroundings.preview options policy).verdicts = .error failure) :
    simulate surroundings policy options = { ending := .raised failure } := by
  unfold Surroundings.preview at raised
  simp only [simulate, raised]

def SimulateOptions.errorClass (options : SimulateOptions) : ErrorClass :=
  if options.attemptTime.isNaN then .valueError else .overflowError

theorem errorClass_of_time {time : Duration}
    (converted : Duration.ofSeconds options.attemptTime = .ok time) :
    options.errorClass = .overflowError := by
  unfold SimulateOptions.errorClass
  cases seconds : options.attemptTime with
  | nan =>
      rw [seconds] at converted
      cases converted
  | infinite negative => rfl
  | finite negative mantissa shift canonical => rfl

theorem kind_of_rangeError {error : Duration.RangeError}
    (failed : Duration.ofSeconds options.attemptTime = .error error) :
    (Failure.ofRangeError error).kind = options.errorClass := by
  unfold SimulateOptions.errorClass
  cases seconds : options.attemptTime with
  | nan =>
      rw [seconds] at failed
      cases failed
      rfl
  | infinite negative =>
      rw [seconds] at failed
      exact Duration.ofSeconds_overflows rfl failed
  | finite negative mantissa shift canonical =>
      rw [seconds] at failed
      exact Duration.ofSeconds_overflows rfl failed

section Steady

variable (inRange : options.InRange)
  (steady : ∀ time : Duration, 0 ≤ time.microseconds →
    Preview.Steady policy surroundings.power time ⟨surroundings.generator options⟩)

include inRange steady

/-- A preview that is steady is completed with at least one verdict, or it ends with an error. -/
theorem preview_completes_or_raises :
    (surroundings.Completes options policy ∧ ∃ verdicts,
      (surroundings.preview options policy).verdicts = .ok verdicts ∧ verdicts ≠ []) ∨
    (¬ surroundings.Completes options policy ∧ ∃ failure,
      (surroundings.preview options policy).verdicts = .error failure ∧
        failure.kind = options.errorClass) := by
  obtain ⟨failures, counted⟩ : ∃ failures, options.failures.toNat = failures + 1 :=
    ⟨options.failures.toNat - 1, by have := inRange.someFailures; omega⟩
  cases converted : Duration.ofSeconds options.attemptTime with
  | error error =>
      refine Or.inr ⟨?_, Failure.ofRangeError error, ?_, kind_of_rangeError converted⟩
      · rintro ⟨time, given, -⟩
        rw [converted] at given
        cases given
      · rw [Surroundings.preview, converted, counted]
        rfl
  | ok time =>
      have notNegative : 0 ≤ time.microseconds :=
        Duration.ofSeconds_nonneg inRange.notBelow converted
      have completes : surroundings.Completes options policy ↔
          ¬ Preview.BreaksOff policy surroundings.power time ⟨surroundings.generator options⟩ []
            options.failures.toNat := by
        unfold Surroundings.Completes
        rw [converted]
        simp
      rw [completes, not_not, Surroundings.preview, converted, errorClass_of_time converted]
      have writable : Decimal.isWritable options.failures.toNat = true := by
        rw [Int.toNat_of_nonneg (Int.le_trans Int.one_nonneg inRange.someFailures)]
        exact inRange.writable
      rcases Preview.simulate_breaks_or_completes (steady time notNegative)
        options.failures.toNat writable with broken | ⟨within, verdicts, previewed⟩
      · exact Or.inr broken
      · refine Or.inl ⟨within, verdicts, previewed, ?_⟩
        rintro rfl
        obtain ⟨-, -, -, ending⟩ := Preview.simulateFrom_course _ _ _ _ _ _
          (Preview.standsAfter_nil policy surroundings.power time _) previewed
        obtain ⟨last, member, -⟩ := ending (by rw [counted]; exact Nat.succ_pos _)
        cases member

theorem completes_of_short {time : Duration}
    (converted : Duration.ofSeconds options.attemptTime = .ok time)
    (short : options.failures * (time.inSeconds + policy.delayBound) ≤ 86399999913600) :
    surroundings.Completes options policy := by
  have counted : ((options.failures.toNat : ℕ) : ℚ) = options.failures := by
    have same : ((options.failures.toNat : ℕ) : ℤ) = options.failures :=
      Int.toNat_of_nonneg (Int.le_trans Int.one_nonneg inRange.someFailures)
    exact_mod_cast same
  rw [← counted] at short
  have notNegative : 0 ≤ time.microseconds :=
    Duration.ofSeconds_nonneg inRange.notBelow converted
  exact ⟨time, converted, Preview.not_breaksOff_of_short (steady time notNegative) short⟩

end Steady

/-- A preview of a configuration that is found valid finishes unless its time is no duration or it
breaks off, with the numbers of its seed or, without one, of whatever generator it is given. If it
finishes, it prints its verdicts; if not, it prints nothing and raises an overflow, or an error in
the value of a time that is not a number. It finishes if all its attempts and delays stay within
999999999 days together. -/
theorem simulate_finishes_iff (surroundings : Surroundings) (arguments : List String)
    (config : Option String) (options : SimulateOptions)
    (asked : parseAll surroundings arguments = .ok ⟨config, .simulate options⟩)
    (accepted : (perform surroundings ⟨config, .validate⟩).ending = .finished)
    (growing : surroundings.power.Growing) :
    ∃ policy, loadPolicy surroundings config = .ok policy ∧
      ((run surroundings arguments).ending = .finished ↔
        surroundings.Completes options policy) ∧
      ((run surroundings arguments).ending = .finished →
        ∃ verdicts, (surroundings.preview options policy).verdicts = .ok verdicts ∧
          verdicts ≠ [] ∧ Printed verdicts (run surroundings arguments).lines) ∧
      ((run surroundings arguments).ending ≠ .finished →
        (run surroundings arguments).lines = [] ∧ ∃ failure,
          (run surroundings arguments).ending = .raised failure ∧
          failure.kind = if options.attemptTime.isNaN then .valueError else .overflowError) ∧
      ∀ time, Duration.ofSeconds options.attemptTime = .ok time →
        options.failures * (time.inSeconds + policy.delayBound) ≤ 86399999913600 →
          (run surroundings arguments).ending = .finished := by
  obtain ⟨policy, loaded, -⟩ := validate_finishes_iff.mp accepted
  have inRange := parseAll_inRange asked
  have steady : ∀ time : Duration, 0 ≤ time.microseconds →
      Preview.Steady policy surroundings.power time ⟨surroundings.generator options⟩ :=
    fun time notNegative => steady_of_loaded _ loaded growing notNegative
  have answered : run surroundings arguments = simulate surroundings policy options := by
    simp only [run, asked, perform, loaded]
  refine ⟨policy, loaded, ?_⟩
  rw [answered]
  rcases preview_completes_or_raises inRange steady with
    ⟨completes, verdicts, previewed, nonempty⟩ | ⟨broken, failure, raised, kind⟩
  · rw [simulate_of_previewed previewed]
    refine ⟨⟨fun _ => completes, fun _ => rfl⟩, ?_, ?_, fun _ _ _ => rfl⟩
    · exact fun _ => ⟨verdicts, previewed, nonempty, printed verdicts⟩
    · exact fun unfinished => absurd rfl unfinished
  · rw [simulate_of_raised raised]
    have unfinished : Ending.raised failure ≠ .finished := by simp
    refine ⟨⟨?_, ?_⟩, ?_, fun _ => ⟨rfl, failure, rfl, kind⟩, ?_⟩
    · exact fun finished => absurd finished unfinished
    · exact fun completes => absurd completes broken
    · exact fun finished => absurd finished unfinished
    · exact fun time converted short => absurd (completes_of_short inRange steady converted short)
        broken

deriving instance DecidableEq for SimulateOptions, Command, Invocation, Ending

def jitteryFiles : Surroundings where
  files _ := some (.ok (.mapping [(.text "retry",
    .mapping [(.text "delay", .int 5), (.text "jitter", .text "500ms")])]))
  directories := []
  environment := {}
  power := Power.first

/-- A preview of two failures with attempts of one and a half seconds prints lines for its verdicts,
whatever jitter is drawn. -/
theorem simulate_finishes_of_jitter :
    let arguments := ["--config", "p.yml", "simulate", "--failures", "2", "--attempt-time", "1.5",
      "--seed", "7"]
    let options : SimulateOptions :=
      { failures := 2, attemptTime := Binary64.ofRatio 3 2, seed := some 7 }
    parseAll jitteryFiles arguments = .ok ⟨some "p.yml", .simulate options⟩ ∧
      (perform jitteryFiles ⟨some "p.yml", .validate⟩).ending = .finished ∧
      jitteryFiles.power.Growing ∧ (run jitteryFiles arguments).ending = .finished ∧
      ∃ verdicts, verdicts ≠ [] ∧ Printed verdicts (run jitteryFiles arguments).lines := by
  intro arguments options
  have asked : parseAll jitteryFiles arguments = .ok ⟨some "p.yml", .simulate options⟩ := by
    decide +kernel
  have accepted : (perform jitteryFiles ⟨some "p.yml", .validate⟩).ending = .finished := by
    decide +kernel
  obtain ⟨policy, loaded, -, prints, -, short⟩ := simulate_finishes_iff jitteryFiles arguments
    (some "p.yml") options asked accepted Power.first_growing
  -- nothing is drawn here: all delays of these settings are short enough
  have values : (loadPolicy jitteryFiles (some "p.yml")).map (fun policy =>
      (policy.longestDelay, policy.jitter, policy.jitterFactor)) =
      .ok (⟨5000000, by decide⟩, some ⟨500000, by decide⟩, none) := by decide +kernel
  rw [loaded] at values
  obtain ⟨delay, jitter, factor⟩ : policy.longestDelay = ⟨5000000, by decide⟩ ∧
      policy.jitter = some ⟨500000, by decide⟩ ∧ policy.jitterFactor = none := by
    simpa [Except.map] using values
  have converted : Duration.ofSeconds options.attemptTime = .ok ⟨1500000, by decide⟩ := by
    decide +kernel
  have finished := short _ converted (by
    norm_num [Settings.delayBound, Settings.longestJitter, delay, jitter, factor,
      Duration.inSeconds, options])
  obtain ⟨verdicts, -, nonempty, lines⟩ := prints finished
  exact ⟨asked, accepted, Power.first_growing, finished, verdicts, nonempty, lines⟩

def noFiles : Surroundings where
  files _ := none
  directories := []
  environment := {}
  power := Power.first

/-- The standard policy is valid and the options pass their checks, but an attempt of a hundred
million million seconds is no duration, and neither is one that is not a number. -/
theorem simulate_raises_of_long_attempt :
    (perform noFiles ⟨none, .validate⟩).ending = .finished ∧
      (run noFiles ["simulate", "--failures", "1", "--attempt-time", "1e14"]).ending =
        .raised ⟨.overflowError,
          some "days=1157407407; must have magnitude <= 999999999"⟩ ∧
      (run noFiles ["simulate", "--failures", "1", "--attempt-time", "1e14"]).lines = [] ∧
      (run noFiles ["simulate", "--failures", "1", "--attempt-time", "nan"]).ending =
        .raised ⟨.valueError, some "cannot convert float NaN to integer"⟩ ∧
      (run noFiles ["simulate", "--failures", "1", "--attempt-time", "nan"]).lines = [] := by
  decide +kernel

end Reattempt.CommandLine
