import Mathlib.Tactic
import Reattempt.Proofs.Builder.Acceptance
import Reattempt.Proofs.Policy.Construction

/-!
# Builders always hold settings of a policy

Every change that is accepted keeps the settings consistent, and one that is refused keeps the
settings. So whatever is called on a builder that starts from the standard settings or from those of
a policy, and on its copies, each builder can be built.
-/

set_option autoImplicit false

namespace Reattempt

namespace Settings

open Change

variable {settings changed : Settings}

/-! ## Each change -/

theorem standard_consistent : ({} : Settings).Consistent := by
  rw [← problems_eq_nil_iff_consistent]
  decide +kernel

theorem policy_consistent (policy : Policy) : policy.toSettings.Consistent :=
  (problems_eq_nil_iff_consistent policy.toSettings).mp policy.sound

theorem withDelay_preserves_consistent (value : Value) (consistent : settings.Consistent)
    (accepted : settings.withDelay value = .ok changed) : changed.Consistent := by
  obtain ⟨delay, _, positive, belowLimit, noRange, noBackoff, within, rfl⟩ :=
    (withDelay_eq_ok_iff settings changed value).mp accepted
  have nonnegative : Duration.zero ≤ delay := by
    simp only [Duration.lt_iff, Duration.le_iff] at positive ⊢
    omega
  refine { consistent with
    delay_not_negative := nonnegative
    random_alone := ?_
    backoff_increasing := ?_
    jitter_within_delay := ?_
    delay_below_maxDuration := ?_ }
  · simp [noRange]
  · simp [noBackoff]
  · intro jitter set
    have smallest : smallestDelay { settings with delay := delay } = delay := by
      simp [smallestDelay, noRange]
    rw [smallest]
    exact ⟨(consistent.jitter_within_delay jitter set).1, within jitter set⟩
  · intro limit set
    exact Or.inr (belowLimit limit set)

theorem withDelayRange_preserves_consistent (low high : Value)
    (consistent : settings.Consistent)
    (accepted : settings.withDelayRange low high = .ok changed) : changed.Consistent := by
  obtain ⟨delayMin, _, delayMax, _, positive, _, increasing, belowLimit, noDelay, noBackoff,
    within, rfl⟩ := (withDelayRange_eq_ok_iff settings changed low high).mp accepted
  refine { consistent with
    bounds_together := rfl
    bounds_increasing := ?_
    random_alone := fun _ => ⟨noDelay, noBackoff⟩
    jitter_within_delay := ?_
    delayMax_below_maxDuration := ?_ }
  · rintro low ⟨⟩ high ⟨⟩
    exact ⟨positive, increasing⟩
  · intro jitter set
    exact ⟨(consistent.jitter_within_delay jitter set).1, within jitter set⟩
  · rintro limit set high ⟨⟩
    exact belowLimit limit set

theorem withBackoff_preserves_consistent (delayValue maxValue factorValue : Value)
    (consistent : settings.Consistent)
    (accepted : settings.withBackoff delayValue maxValue factorValue = .ok changed) :
    changed.Consistent := by
  obtain ⟨delay, _, maxDelay, _, factor, _, positive, belowLimit, increasing, growing, _,
    noRange, within, rfl⟩ :=
    (withBackoff_eq_ok_iff settings changed delayValue maxValue factorValue).mp accepted
  have nonnegative : Duration.zero ≤ delay := by
    simp only [Duration.lt_iff, Duration.le_iff] at positive ⊢
    omega
  refine { consistent with
    factor_above_one := growing
    delay_not_negative := nonnegative
    random_alone := ?_
    backoff_increasing := ?_
    jitter_within_delay := ?_
    delay_below_maxDuration := ?_ }
  · simp [noRange]
  · rintro cap ⟨⟩
    exact ⟨positive, increasing⟩
  · intro jitter set
    have smallest : smallestDelay { settings with
        delay := delay, maxDelay := some maxDelay, delayFactor := factor } = delay := by
      simp [smallestDelay, noRange]
    rw [smallest]
    exact ⟨(consistent.jitter_within_delay jitter set).1, within jitter set⟩
  · intro limit set
    exact Or.inr (belowLimit limit set)

theorem withJitter_preserves_consistent (value : Value) (consistent : settings.Consistent)
    (accepted : settings.withJitter value = .ok changed) : changed.Consistent := by
  obtain ⟨jitter, _, positive, _, within, rfl⟩ :=
    (withJitter_eq_ok_iff settings changed value).mp accepted
  refine { consistent with
    jitterFactor_within_one := ?_
    one_jitter := Or.inr rfl
    jitter_within_delay := ?_ }
  · simp
  · rintro jitter ⟨⟩
    exact ⟨positive, within⟩

theorem withJitterFactor_preserves_consistent (value : Value)
    (consistent : settings.Consistent)
    (accepted : settings.withJitterFactor value = .ok changed) : changed.Consistent := by
  obtain ⟨factor, _, bounded, noJitter, rfl⟩ :=
    (withJitterFactor_eq_ok_iff settings changed value).mp accepted
  refine { consistent with
    jitterFactor_within_one := ?_
    one_jitter := Or.inl noJitter }
  rintro factor ⟨⟩
  exact bounded

theorem withMaxDuration_preserves_consistent (value : Value)
    (consistent : settings.Consistent)
    (accepted : settings.withMaxDuration value = .ok changed) : changed.Consistent := by
  obtain ⟨limit, _, nonnegative, aboveDelay, aboveHigh, rfl⟩ :=
    (withMaxDuration_eq_ok_iff settings changed value).mp accepted
  refine { consistent with
    maxDuration_not_negative := ?_
    delay_below_maxDuration := ?_
    delayMax_below_maxDuration := ?_ }
  · rintro limit ⟨⟩
    exact nonnegative
  · rintro limit ⟨⟩
    exact aboveDelay
  · rintro limit ⟨⟩
    exact aboveHigh

theorem withMaxRetries_preserves_consistent (value : Value) (consistent : settings.Consistent)
    (accepted : settings.withMaxRetries value = .ok changed) : changed.Consistent := by
  obtain ⟨retries, _, bounded, rfl⟩ :=
    (withMaxRetries_eq_ok_iff settings changed value).mp accepted
  exact { consistent with retries_at_least := bounded }

theorem withMaxAttempts_preserves_consistent (value : Value)
    (consistent : settings.Consistent)
    (accepted : settings.withMaxAttempts value = .ok changed) : changed.Consistent := by
  obtain ⟨attempts, _, notZero, bounded, rfl⟩ :=
    (withMaxAttempts_eq_ok_iff settings changed value).mp accepted
  refine { consistent with retries_at_least := ?_ }
  dsimp only
  split <;> omega

/-- Conditions and handlers take no part in the rules. -/
theorem Consistent.withObservers (consistent : settings.Consistent)
    (conditions : List AbortCondition) (handlers : Handlers) :
    ({ settings with abortConditions := conditions, handlers := handlers } :
      Settings).Consistent :=
  { consistent with }

theorem change_preserves_consistent (tag : Nat) (change : Change)
    (consistent : settings.Consistent) (accepted : settings.change tag change = .ok changed) :
    changed.Consistent := by
  cases change with
  | delay value => exact withDelay_preserves_consistent value consistent accepted
  | delayRange low high =>
      exact withDelayRange_preserves_consistent low high consistent accepted
  | backoff delay cap factor =>
      exact withBackoff_preserves_consistent delay cap factor consistent accepted
  | jitter value => exact withJitter_preserves_consistent value consistent accepted
  | jitterFactor value => exact withJitterFactor_preserves_consistent value consistent accepted
  | maxDuration value => exact withMaxDuration_preserves_consistent value consistent accepted
  | maxRetries value => exact withMaxRetries_preserves_consistent value consistent accepted
  | maxAttempts value => exact withMaxAttempts_preserves_consistent value consistent accepted
  | abortOn failureTypes =>
      obtain ⟨_, _, _, rfl⟩ := (abortOn_eq_ok_iff settings changed tag failureTypes).mp accepted
      exact consistent.withObservers _ _
  | abortOnFailureIf predicate =>
      obtain ⟨_, _, rfl⟩ := (map_eq_ok_iff _ _ _).mp accepted
      exact consistent.withObservers _ _
  | abortIf predicate =>
      obtain ⟨_, _, rfl⟩ := (map_eq_ok_iff _ _ _).mp accepted
      exact consistent.withObservers _ _
  | abortIfResult predicate =>
      obtain ⟨_, _, rfl⟩ := (map_eq_ok_iff _ _ _).mp accepted
      exact consistent.withObservers _ _
  | abortWhen result objects =>
      cases Except.ok.inj accepted
      exact consistent.withObservers _ _
  | handle occasion handler =>
      obtain ⟨_, _, rfl⟩ := (map_eq_ok_iff _ _ _).mp accepted
      exact consistent.withObservers _ _

theorem changeOrKeep_preserves_consistent (tag : Nat) (change : Change)
    (consistent : settings.Consistent) : (settings.changeOrKeep tag change).Consistent := by
  unfold changeOrKeep
  cases answer : settings.change tag change with
  | error refused => exact consistent
  | ok changed => exact change_preserves_consistent tag change consistent answer

/-! ## What consistent settings come to -/

def configuredModes (settings : Settings) : List DelayMode :=
  (if Duration.zero < settings.delay ∧ settings.maxDelay = none then [.fixed] else []) ++
    (if settings.delayMin.isSome ∨ settings.delayMax.isSome then [.random] else []) ++
    (if settings.maxDelay.isSome then [.backoff] else [])

theorem Consistent.configuredModes_length (consistent : settings.Consistent) :
    settings.configuredModes.length ≤ 1 := by
  unfold configuredModes
  have together := consistent.bounds_together
  cases lowCase : settings.delayMin with
  | some low =>
      obtain ⟨noDelay, noCap⟩ := consistent.random_alone (by simp [lowCase])
      have unfixed : ¬ Duration.zero < settings.delay := by
        rw [noDelay, Duration.lt_iff]
        omega
      simp [unfixed, noCap]
  | none =>
      have noHigh : settings.delayMax.isSome = false := by
        rw [← together, lowCase]
        rfl
      cases settings.maxDelay with
      | some cap => simp [noHigh]
      | none =>
          simp only [noHigh, Option.isSome_none, Bool.false_eq_true, or_self, if_false,
            List.append_nil]
          split <;> simp

theorem Consistent.build_eq_ok (consistent : settings.Consistent) :
    ∃ policy : Policy, policy.toSettings = settings ∧ settings.build = .ok policy ∧
      Policy.ofArguments settings.toArguments = .ok (.ok policy) := by
  have sound := (problems_eq_nil_iff_consistent settings).mpr consistent
  have built : settings.build = .ok ⟨settings, sound⟩ := by
    simp [build, Policy.ofSettings, sound]
  refine ⟨⟨settings, sound⟩, rfl, built, ?_⟩
  rw [Policy.ofArguments_toArguments]
  exact congrArg Except.ok built

/-- A policy that settings make is noted exactly if its limit on retries can be written. -/
theorem buildAndNote_of_built {policy : Policy} (built : settings.build = .ok policy) :
    settings.buildAndNote =
      if Decimal.isWritable policy.maxRetries then .ok (.ok policy) else .error .digits := by
  rw [buildAndNote, built]
  rfl

theorem buildAndNote_eq_ok_iff {policy : Policy} :
    settings.buildAndNote = .ok (.ok policy) ↔
      settings.build = .ok policy ∧ Decimal.isWritable policy.maxRetries = true := by
  cases built : settings.build with
  | error problems =>
      rw [buildAndNote, built]
      simp [note]
  | ok made =>
      rw [buildAndNote_of_built built]
      split
      · rename_i writable
        constructor
        · rintro ⟨⟩
          exact ⟨rfl, writable⟩
        · rintro ⟨⟨⟩, -⟩
          rfl
      · rename_i long
        refine iff_of_false (by rintro ⟨⟩) ?_
        rintro ⟨⟨⟩, writable⟩
        exact long writable

end Settings

/-! ## Calls on builders -/

inductive BuilderOrigin where
  | fresh
  | ofPolicy (policy : Policy)

def BuilderOrigin.settings : BuilderOrigin → Settings
  | .fresh => {}
  | .ofPolicy policy => policy.toBuilder

/-- A call on one of the builders in hand, which are numbered as they were made. -/
inductive BuilderCall where
  | apply (builder tag : Nat) (change : Change)
  | copy (builder : Nat)

namespace BuilderCall

/-- The builders in hand after a call. A change that is refused has no effect. A copy starts with
the settings of its original and is changed on its own. -/
def perform (builders : List Settings) : BuilderCall → List Settings
  | .apply builder tag change =>
      builders.modify builder fun settings => settings.changeOrKeep tag change
  | .copy builder => builders ++ builders[builder]?.toList

def performAll : List BuilderCall → List Settings → List Settings
  | [], builders => builders
  | call :: calls, builders => performAll calls (call.perform builders)

theorem perform_preserves_consistent (call : BuilderCall) (builders : List Settings)
    (consistent : ∀ builder ∈ builders, builder.Consistent) :
    ∀ builder ∈ call.perform builders, builder.Consistent := by
  intro builder held
  cases call with
  | apply number tag change =>
      obtain ⟨place, found⟩ := List.mem_iff_getElem?.mp held
      simp only [perform, List.getElem?_modify] at found
      obtain ⟨before, stood, changed⟩ := Option.map_eq_some_iff.mp found
      have beforeConsistent := consistent before (List.mem_of_getElem? stood)
      rw [← changed]
      split
      · exact Settings.changeOrKeep_preserves_consistent tag change beforeConsistent
      · exact beforeConsistent
  | copy number =>
      rcases List.mem_append.mp held with old | copied
      · exact consistent builder old
      · exact consistent builder
          (List.mem_of_getElem? (Option.mem_toList.mp copied))

theorem performAll_preserves_consistent (calls : List BuilderCall) : ∀ builders : List Settings,
    (∀ builder ∈ builders, builder.Consistent) →
      ∀ builder ∈ performAll calls builders, builder.Consistent := by
  induction calls with
  | nil => exact fun builders consistent => consistent
  | cons call calls ih =>
      intro builders consistent
      exact ih (call.perform builders) (perform_preserves_consistent call builders consistent)

end BuilderCall

theorem BuilderOrigin.settings_consistent (origin : BuilderOrigin) :
    origin.settings.Consistent := by
  cases origin with
  | fresh => exact Settings.standard_consistent
  | ofPolicy policy => exact Settings.policy_consistent policy

/-- Whatever is called on a builder and on its copies, each of them makes a policy, also when its
settings are checked as arguments again; only a limit on retries that is too long keeps it from
being noted. Its settings are within their bounds and without conflict: at most one way to delay, at
most one kind of jitter, and no jitter above the least delay. -/
theorem builders_make_policies (origin : BuilderOrigin) (calls : List BuilderCall)
    (builder : Settings) (held : builder ∈ BuilderCall.performAll calls [origin.settings]) :
    (∃ policy : Policy, policy.toSettings = builder ∧ builder.build = .ok policy ∧
      (builder.buildAndNote =
        if Decimal.isWritable builder.maxRetries then .ok (.ok policy) else .error .digits) ∧
      Policy.ofArguments builder.toArguments = .ok (.ok policy)) ∧
    builder.conflict? = none ∧
    Binary64.ofInt 1 < builder.delayFactor ∧
    (∀ factor ∈ builder.jitterFactor,
      Binary64.ofInt 0 ≤ factor ∧ factor ≤ Binary64.ofInt 1) ∧
    -1 ≤ builder.maxRetries ∧
    builder.configuredModes.length ≤ 1 ∧
    (builder.jitter = none ∨ builder.jitterFactor = none) ∧
    ∀ jitter ∈ builder.jitter, jitter ≤ builder.smallestDelay := by
  have startConsistent : ∀ builder ∈ [origin.settings], builder.Consistent := by
    intro start member
    rw [List.mem_singleton.mp member]
    exact origin.settings_consistent
  have consistent : builder.Consistent :=
    BuilderCall.performAll_preserves_consistent calls _ startConsistent builder held
  obtain ⟨policy, same, built, constructed⟩ := consistent.build_eq_ok
  have sound : builder.problems = [] := same ▸ policy.sound
  have noConflict : builder.conflict? = none := by
    have unbounded := (Settings.boundProblems_eq_nil_iff builder).mpr
      ⟨consistent.factor_above_one, consistent.jitterFactor_within_one,
        consistent.retries_at_least⟩
    simpa [Settings.problems, unbounded] using sound
  have noted := Settings.buildAndNote_of_built built
  rw [same] at noted
  exact ⟨⟨policy, same, built, noted, constructed⟩, noConflict, consistent.factor_above_one,
    consistent.jitterFactor_within_one, consistent.retries_at_least,
    consistent.configuredModes_length, consistent.one_jitter,
    fun jitter set => (consistent.jitter_within_delay jitter set).2⟩

/-- A copy refuses a delay below its jitter, takes the next one and makes a policy. -/
theorem builders_make_policies_of_copy :
    ∃ builder ∈ BuilderCall.performAll
        [.apply 0 1 (.delay (.int 5)), .apply 0 2 (.jitter (.int 3)), .copy 0,
          .apply 1 3 (.delay (.int 2)), .apply 1 4 (.delay (.int 4))]
        [BuilderOrigin.fresh.settings],
      builder.delay.microseconds = 4000000 ∧
        (∃ policy : Policy, builder.build = .ok policy ∧
          builder.buildAndNote = .ok (.ok policy)) ∧
        ∀ jitter ∈ builder.jitter, jitter ≤ builder.smallestDelay := by
  obtain ⟨builder, found, delayed, writable⟩ : ∃ builder : Settings,
      (BuilderCall.performAll
        [.apply 0 1 (.delay (.int 5)), .apply 0 2 (.jitter (.int 3)), .copy 0,
          .apply 1 3 (.delay (.int 2)), .apply 1 4 (.delay (.int 4))]
        [BuilderOrigin.fresh.settings])[1]? = some builder ∧
      builder.delay.microseconds = 4000000 ∧ Decimal.isWritable builder.maxRetries = true :=
    ⟨_, rfl, rfl, by decide +kernel⟩
  have held := List.mem_of_getElem? found
  obtain ⟨⟨policy, _, built, noted, _⟩, _, _, _, _, _, _, within⟩ :=
    builders_make_policies .fresh _ builder held
  rw [if_pos writable] at noted
  exact ⟨builder, held, delayed, ⟨policy, built, noted⟩, within⟩

end Reattempt
