import Mathlib.Tactic
import Reattempt.Proofs.Decimal.Limit
import Reattempt.Proofs.Decision.Conditions

/-!
# Policies and builders

A policy keeps all that later changes look at. Whether they start from the policy or from a builder
that made it, the same changes are refused for the same reasons and lead to the same policy
(`policies_keep_builders`). What a policy does not keep is that its limit on retries is short enough
to be noted (`long_policy_not_noted`).
-/

set_option autoImplicit false

namespace Reattempt

open Change

namespace Settings

variable {settings other : Settings}

/-! ## What changes look at -/

/-- The settings without the abort conditions, which no change looks at. -/
def unconditional (settings : Settings) : Settings := { settings with abortConditions := [] }

theorem except_map_bind {α β γ : Type} (first : Except ChangeError α)
    (next : α → Except ChangeError β) (f : β → γ) :
    (first >>= next).map f = first >>= fun middle => (next middle).map f := by
  cases first <;> rfl

/-- A change does to the other settings what it does without conditions, whatever tag it has. -/
theorem change_unconditional (settings : Settings) (tag made : Nat) (change : Change) :
    (settings.change tag change).map unconditional =
      (settings.unconditional.change made change).map unconditional := by
  cases change with
  | delay value =>
      simp only [Settings.change, withDelay, except_map_bind]
      rfl
  | delayRange low high =>
      simp only [Settings.change, withDelayRange, except_map_bind]
      rfl
  | backoff value cap rate =>
      simp only [Settings.change, withBackoff, except_map_bind]
      rfl
  | jitter value =>
      simp only [Settings.change, withJitter, except_map_bind]
      rfl
  | jitterFactor value =>
      simp only [Settings.change, withJitterFactor, except_map_bind]
      rfl
  | maxDuration value =>
      simp only [Settings.change, withMaxDuration, except_map_bind]
      rfl
  | maxRetries value =>
      simp only [Settings.change, withMaxRetries, except_map_bind]
      rfl
  | maxAttempts value =>
      simp only [Settings.change, withMaxAttempts, except_map_bind]
      rfl
  | abortOn failureTypes =>
      simp only [Settings.change, abortOn, except_map_bind]
      rfl
  | abortOnFailureIf argument =>
      simp only [Settings.change]
      cases readPredicate argument <;> rfl
  | abortIf argument =>
      simp only [Settings.change]
      cases readPredicate argument <;> rfl
  | abortIfResult argument =>
      simp only [Settings.change]
      cases readPredicate argument <;> rfl
  | abortWhen result objects => rfl
  | handle occasion argument =>
      simp only [Settings.change]
      cases readHandler argument <;> rfl

def refusal? (settings : Settings) (tag : Nat) (change : Change) : Option ChangeError :=
  match settings.change tag change with
  | .ok _ => none
  | .error error => some error

def refusals : List (Nat × Change) → Settings → List (Option ChangeError)
  | [], _ => []
  | call :: calls, settings =>
      settings.refusal? call.1 call.2 :: refusals calls (settings.changeOrKeep call.1 call.2)

theorem change_congr (alike : settings.unconditional = other.unconditional) (tag made : Nat)
    (change : Change) :
    settings.refusal? tag change = other.refusal? made change ∧
      (settings.changeOrKeep tag change).unconditional =
        (other.changeOrKeep made change).unconditional := by
  have same := (change_unconditional settings tag made change).trans
    (alike ▸ (change_unconditional other made made change).symm)
  unfold refusal? changeOrKeep
  cases first : settings.change tag change with
  | error error =>
      cases second : other.change made change with
      | error error' =>
          rw [first, second] at same
          cases same
          exact ⟨rfl, alike⟩
      | ok changed =>
          rw [first, second] at same
          cases same
  | ok changed =>
      cases second : other.change made change with
      | error error =>
          rw [first, second] at same
          cases same
      | ok changed' =>
          rw [first, second] at same
          exact ⟨rfl, Except.ok.inj same⟩

/-- The same changes are refused for the same reasons and lead to the same other settings. -/
theorem calls_congr (calls : List (Nat × Change)) : ∀ (others : List (Nat × Change))
    (settings other : Settings), settings.unconditional = other.unconditional →
    calls.map Prod.snd = others.map Prod.snd →
      refusals calls settings = refusals others other ∧
        (settings.afterCalls calls).unconditional = (other.afterCalls others).unconditional := by
  induction calls with
  | nil =>
      intro others settings other alike sameChanges
      cases List.map_eq_nil_iff.mp sameChanges.symm
      exact ⟨rfl, alike⟩
  | cons call calls ih =>
      intro others settings other alike sameChanges
      obtain ⟨⟨made, change⟩, others, rfl, rfl, sameRest⟩ :=
        List.map_eq_cons_iff.mp sameChanges.symm
      obtain ⟨sameRefusal, stillAlike⟩ := change_congr alike call.1 made call.2
      obtain ⟨sameRefusals, alikeAfter⟩ := ih others _ _ stillAlike sameRest.symm
      exact ⟨congrArg₂ List.cons sameRefusal sameRefusals, alikeAfter⟩

/-! ## What settings make -/

/-- The settings make the policy, and so do they when they are written out as arguments. It is noted
if its limit on retries can be written, and otherwise noting it raises. -/
structure Makes (settings : Settings) (policy : Policy) : Prop where
  built : settings.build = .ok policy
  noted : settings.buildAndNote =
    if Decimal.isWritable policy.maxRetries then .ok (.ok policy) else .error .digits
  constructed : Policy.ofArguments settings.toArguments = .ok (.ok policy)

theorem Makes.toSettings_eq {policy : Policy} (makes : settings.Makes policy) :
    policy.toSettings = settings := by
  have built := makes.built
  unfold build Policy.ofSettings at built
  split at built
  · cases built
    rfl
  · cases built

theorem Consistent.makes (consistent : settings.Consistent) :
    ∃ policy : Policy, policy.toSettings = settings ∧ settings.Makes policy := by
  obtain ⟨policy, same, built, constructed⟩ := consistent.build_eq_ok
  exact ⟨policy, same, built, buildAndNote_of_built built, constructed⟩

end Settings

open Settings

/-- A condition that is made anew has the same rule. -/
theorem Change.condition?_rule (change : Change) (tag made : Nat) :
    (change.condition? tag).map AbortCondition.rule =
      (change.condition? made).map AbortCondition.rule := by
  cases change with
  | abortOn failureTypes =>
      simp only [condition?]
      split
      · rfl
      · simp only [Option.map_map, Function.comp_def]
  | abortOnFailureIf predicate => simp only [condition?, Option.map_map, Function.comp_def]
  | abortIfResult predicate => simp only [condition?, Option.map_map, Function.comp_def]
  | _ => rfl

theorem Change.conditions_rules {calls others : List (Nat × Change)}
    (sameChanges : calls.map Prod.snd = others.map Prod.snd) :
    (calls.filterMap fun call => call.2.condition? call.1).map AbortCondition.rule =
      (others.filterMap fun call => call.2.condition? call.1).map AbortCondition.rule := by
  have untagged (list : List (Nat × Change)) :
      (list.filterMap fun call => call.2.condition? call.1).map AbortCondition.rule =
        (list.map Prod.snd).filterMap fun change =>
          (change.condition? 0).map AbortCondition.rule := by
    rw [List.map_filterMap, List.filterMap_map]
    exact congrArg (fun f => list.filterMap f) (funext fun call => call.2.condition?_rule call.1 0)
  rw [untagged, untagged, sameChanges]

namespace Policy

theorem ext_settings {made remade : Policy} (same : made.toSettings = remade.toSettings) :
    made = remade := by
  cases made
  cases remade
  cases same
  rfl

theorem toBuilder_consistent (policy : Policy) : policy.toBuilder.Consistent :=
  policy_consistent policy

theorem toBuilder_makes (policy : Policy) : policy.toBuilder.Makes policy := by
  obtain ⟨made, same, makes⟩ := policy.toBuilder_consistent.makes
  obtain rfl : made = policy := ext_settings same
  exact makes

end Policy

namespace BuilderCall

theorem performAll_append (calls later : List BuilderCall) : ∀ builders : List Settings,
    performAll (calls ++ later) builders = performAll later (performAll calls builders) := by
  induction calls with
  | nil => exact fun _ => rfl
  | cons call calls ih => exact fun builders => ih (call.perform builders)

theorem performAll_copy {builders : List Settings} {number : Nat} {builder : Settings}
    (found : builders[number]? = some builder) :
    performAll [.copy number] builders = builders ++ [builder] := by
  simp only [performAll, perform, found, Option.toList_some]

end BuilderCall

/-- A policy makes itself again, and the copy of a builder the policy of its original; both are
noted unless the limit on retries is too long. The same changes are refused for the same reasons,
and lead to the same policy, whether they start from a policy or from a builder that makes it.
Conditions that are made for the changes have the same rules then, and are the same if their tags
are. -/
theorem policies_keep_builders (policy : Policy) :
    policy.toBuilder.Makes policy ∧
    (∀ (origin : BuilderOrigin) (calls : List BuilderCall) (number : Nat) (builder : Settings),
      (BuilderCall.performAll calls [origin.settings])[number]? = some builder →
      ∃ copied made, BuilderCall.performAll (calls ++ [.copy number]) [origin.settings] =
          BuilderCall.performAll calls [origin.settings] ++ [copied] ∧
        builder.Makes made ∧ copied.Makes made) ∧
    ∀ builder : Settings, builder.Makes policy →
      ∀ calls others : List (Nat × Change), calls.map Prod.snd = others.map Prod.snd →
        refusals calls policy.toBuilder = refusals others builder ∧
        ∃ made remade : Policy, (policy.toBuilder.afterCalls calls).Makes made ∧
          (builder.afterCalls others).Makes remade ∧
          made.unconditional = remade.unconditional ∧
          made.abortConditions = policy.abortConditions ++
            calls.filterMap (fun call => call.2.condition? call.1) ∧
          remade.abortConditions = policy.abortConditions ++
            others.filterMap (fun call => call.2.condition? call.1) ∧
          made.abortConditions.map AbortCondition.rule =
            remade.abortConditions.map AbortCondition.rule ∧
          (calls = others → made = remade) := by
  refine ⟨policy.toBuilder_makes, ?_, ?_⟩
  · intro origin calls number builder found
    have started : ∀ builder ∈ [origin.settings], builder.Consistent := by
      intro start member
      rw [List.mem_singleton.mp member]
      exact origin.settings_consistent
    have consistent := BuilderCall.performAll_preserves_consistent calls _ started builder
      (List.mem_of_getElem? found)
    obtain ⟨made, -, makes⟩ := consistent.makes
    refine ⟨builder, made, ?_, makes, makes⟩
    rw [BuilderCall.performAll_append, BuilderCall.performAll_copy found]
  · rintro builder makes calls others sameChanges
    have same : builder = policy.toBuilder := makes.toSettings_eq.symm
    subst same
    obtain ⟨sameRefusals, alike⟩ := calls_congr calls others _ _ rfl sameChanges
    obtain ⟨made, madeFrom, madeMakes⟩ :=
      (afterCalls_consistent calls _ policy.toBuilder_consistent).makes
    obtain ⟨remade, remadeFrom, remadeMakes⟩ :=
      (afterCalls_consistent others _ policy.toBuilder_consistent).makes
    have conditions : made.abortConditions = policy.abortConditions ++
        calls.filterMap (fun call => call.2.condition? call.1) := by
      rw [madeFrom, afterCalls_abortConditions]
      rfl
    have reconditions : remade.abortConditions = policy.abortConditions ++
        others.filterMap (fun call => call.2.condition? call.1) := by
      rw [remadeFrom, afterCalls_abortConditions]
      rfl
    refine ⟨sameRefusals, made, remade, madeMakes, remadeMakes, ?_, conditions, reconditions,
      ?_, ?_⟩
    · rw [madeFrom, remadeFrom, alike]
    · rw [conditions, reconditions, List.map_append, List.map_append,
        conditions_rules sameChanges]
    · rintro rfl
      exact Policy.ext_settings (madeFrom.trans remadeFrom.symm)

/-- After a jitter of three seconds a delay of two is refused, and another condition is not, by the
builder as by its policy. -/
theorem policies_keep_builders_of_jitter :
    ∃ (policy : Policy) (builder : Settings), builder.Makes policy ∧
      refusals [(2, .delay (.int 2)), (3, .abortWhen .null .apart)] builder =
        [some (.state .jitterAboveDelay), none] ∧
      refusals [(4, .delay (.int 2)), (5, .abortWhen .null .apart)] policy.toBuilder =
        [some (.state .jitterAboveDelay), none] := by
  have jittered := afterCalls_consistent [(0, .delay (.int 5)), (1, .jitter (.int 3))] {}
    standard_consistent
  obtain ⟨policy, -, makes⟩ := jittered.makes
  obtain ⟨-, -, keeps⟩ := policies_keep_builders policy
  obtain ⟨sameRefusals, -⟩ :=
    keeps _ makes [(4, .delay (.int 2)), (5, .abortWhen .null .apart)]
      [(2, .delay (.int 2)), (3, .abortWhen .null .apart)] rfl
  exact ⟨policy, _, makes, rfl, sameRefusals.trans rfl⟩

/-- A policy with a limit on retries that is too long is accepted, and its builder makes it again,
but raises an error in the value before it is returned. -/
theorem long_policy_not_noted :
    ∃ policy : Policy, policy.maxRetries = Decimal.tooLong ∧
      Policy.ofArguments policy.toArguments = .ok (.ok policy) ∧
      policy.toBuilder.build = .ok policy ∧ policy.toBuilder.buildAndNote = .error .digits ∧
      (Failure.ofRangeError .digits).kind = .valueError := by
  have consistent : ({ maxRetries := Decimal.tooLong } : Settings).Consistent :=
    { standard_consistent with
      retries_at_least := Int.le_trans (by decide) Decimal.tooLong_nonneg }
  obtain ⟨policy, same, -⟩ := consistent.makes
  have limit : policy.maxRetries = Decimal.tooLong := by rw [same]
  obtain ⟨built, noted, constructed⟩ := policy.toBuilder_makes
  rw [limit, Decimal.isWritable_tooLong] at noted
  exact ⟨policy, limit, constructed, built, noted, rfl⟩

end Reattempt
