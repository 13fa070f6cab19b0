import Mathlib.Tactic
import Reattempt.Proofs.Value.Overlay

/-!
# Places in mappings

A place in a mapping is given by the keys that lead down to it. Where one mapping is laid over
another, the upper one has its say at every place it reaches, and the lower one at all places that
the upper one does not cut off with a value that is no mapping (`overlay_merges`).
-/

set_option autoImplicit false

namespace Reattempt

section Laws

variable [objects : Objects]

/-! ## What stands at a place -/

def Value.valueAt? : Value → List Value → Option Value
  | value, [] => some value
  | .mapping entries, key :: keys =>
      (Mapping.get? entries key).bind fun value => value.valueAt? keys
  | _, _ :: _ => none

/-- Whether something that is no mapping stands at the place or on the way to it. -/
def Value.cutsOff : Value → List Value → Bool
  | .mapping _, [] => false
  | .mapping entries, key :: keys =>
      (Mapping.get? entries key).any fun value => value.cutsOff keys
  | _, _ => true

def Mapping.valueAt? (entries : Mapping) (path : List Value) : Option Value :=
  (Value.mapping entries).valueAt? path

def Value.IsMapping (value : Value) : Prop := ∃ entries, value = .mapping entries

namespace Value

variable {value found given : Value} {old : Option Value} {path rest : List Value}

theorem valueAt?_nil (value : Value) : value.valueAt? [] = some value := by
  cases value <;> rfl

theorem valueAt?_cons_of_other (single : ¬ value.IsMapping) (key : Value) (keys : List Value) :
    value.valueAt? (key :: keys) = none := by
  cases value with
  | mapping entries => exact absurd ⟨entries, rfl⟩ single
  | _ => rfl

theorem valueAt?_append (value : Value) (path rest : List Value) : value.valueAt? (path ++ rest) =
    (value.valueAt? path).bind fun found => found.valueAt? rest := by
  induction path generalizing value with
  | nil =>
      rw [valueAt?_nil]
      rfl
  | cons key keys ih =>
      by_cases several : value.IsMapping
      · obtain ⟨entries, rfl⟩ := several
        rw [List.cons_append, valueAt?, valueAt?, Option.bind_assoc]
        exact congrArg (Mapping.get? entries key).bind (funext fun inner => ih inner)
      · rw [List.cons_append, valueAt?_cons_of_other several, valueAt?_cons_of_other several]
        rfl

theorem Keyed.valueAt? (keyed : value.Keyed) (stands : value.valueAt? path = some found) :
    found.Keyed := by
  induction path generalizing value with
  | nil =>
      rw [valueAt?_nil] at stands
      cases stands
      exact keyed
  | cons key keys ih =>
      by_cases several : value.IsMapping
      · obtain ⟨entries, rfl⟩ := several
        obtain ⟨inner, here, further⟩ := Option.bind_eq_some_iff.mp stands
        exact ih (keyed.value_of_get? here) further
      · rw [valueAt?_cons_of_other several] at stands
        cases stands

theorem cutsOff_of_other (single : ¬ value.IsMapping) (path : List Value) :
    value.cutsOff path = true := by
  cases value with
  | mapping entries => exact absurd ⟨entries, rfl⟩ single
  | _ => cases path <;> rfl

theorem cutsOff_iff : value.cutsOff path = true ↔
    ∃ prior found, prior <+: path ∧ value.valueAt? prior = some found ∧ ¬ found.IsMapping := by
  induction path generalizing value with
  | nil =>
      simp only [List.prefix_nil, exists_eq_left, valueAt?_nil, Option.some.injEq,
        exists_and_left, exists_eq_left']
      by_cases several : value.IsMapping
      · obtain ⟨entries, rfl⟩ := several
        exact iff_of_false nofun fun single => single ⟨entries, rfl⟩
      · exact iff_of_true (cutsOff_of_other several []) several
  | cons key keys ih =>
      by_cases several : value.IsMapping
      · obtain ⟨entries, rfl⟩ := several
        simp only [cutsOff, Option.any_eq_true, ih]
        constructor
        · rintro ⟨inner, here, prior, found, leads, stands, single⟩
          refine ⟨key :: prior, found, List.cons_prefix_cons.mpr ⟨rfl, leads⟩, ?_, single⟩
          rw [valueAt?, here]
          exact stands
        · rintro ⟨prior, found, leads, stands, single⟩
          rcases List.prefix_cons_iff.mp leads with rfl | ⟨keys', rfl, leads'⟩
          · cases stands
            exact absurd ⟨entries, rfl⟩ single
          · obtain ⟨inner, here, further⟩ := Option.bind_eq_some_iff.mp stands
            exact ⟨inner, here, keys', found, leads', further, single⟩
      · exact iff_of_true (cutsOff_of_other several _)
          ⟨[], value, List.nil_prefix, valueAt?_nil value, several⟩

/-! ## Places after laying over -/

theorem overlaid_of_not_both (apart : ¬ (value.IsMapping ∧ ∃ lower ∈ old, lower.IsMapping)) :
    value.overlaid old = value := by
  by_cases several : value.IsMapping
  · obtain ⟨entries, rfl⟩ := several
    refine mapping_overlaid_of_other fun lower same => apart ⟨⟨entries, rfl⟩, ?_⟩
    exact ⟨.mapping lower, same, lower, rfl⟩
  · exact overlaid_of_other (fun entries same => several ⟨entries, same⟩) old

theorem IsMapping.overlaid (several : value.IsMapping) (old : Option Value) :
    (value.overlaid old).IsMapping := by
  obtain ⟨entries, rfl⟩ := several
  by_cases both : ∃ lower, old = some (.mapping lower)
  · obtain ⟨lower, rfl⟩ := both
    exact ⟨Mapping.overlay lower entries, rfl⟩
  · rw [mapping_overlaid_of_other fun lower same => both ⟨lower, same⟩]
    exact ⟨entries, rfl⟩

/-- What the upper value has at a place is laid over what the lower one has there, and the lower one
is left with the places that are not cut off. -/
theorem valueAt?_overlaid (keyed : value.Keyed) (keyedOld : ∀ lower ∈ old, lower.Keyed) :
    (value.overlaid old).valueAt? path =
      ((value.valueAt? path).map fun given =>
          given.overlaid (old.bind fun lower => lower.valueAt? path)).or
        (if value.cutsOff path then none else old.bind fun lower => lower.valueAt? path) := by
  induction path generalizing value old with
  | nil =>
      have there : (old.bind fun lower => lower.valueAt? []) = old := by
        cases old with
        | none => rfl
        | some lower => exact valueAt?_nil lower
      rw [valueAt?_nil, valueAt?_nil, there]
      rfl
  | cons key keys ih =>
      by_cases both : value.IsMapping ∧ ∃ lower ∈ old, lower.IsMapping
      · obtain ⟨⟨above, rfl⟩, _, rfl, below, rfl⟩ := both
        have keyedBelow := keyedOld _ rfl
        have merged := Mapping.get?_overlay keyedBelow.proper.hashable keyed.proper key
        change (mapping (Mapping.overlay below above)).valueAt? (key :: keys) = _
        simp only [valueAt?, cutsOff, Option.bind_some]
        rw [merged]
        obtain here | ⟨inner, here⟩ := Option.eq_none_or_eq_some (Mapping.get? above key)
        · simp [here]
        · have lowerKeyed : ∀ lower ∈ Mapping.get? below key, lower.Keyed := fun lower found =>
            keyedBelow.value_of_get? found
          simpa [here] using ih (keyed.value_of_get? here) lowerKeyed
      · rw [overlaid_of_not_both both]
        by_cases several : value.IsMapping
        · have nothing : (old.bind fun lower => lower.valueAt? (key :: keys)) = none :=
            Option.bind_eq_none_iff.mpr fun lower here =>
              valueAt?_cons_of_other (fun also => both ⟨several, lower, here, also⟩) key keys
          simp [nothing]
        · rw [valueAt?_cons_of_other several, cutsOff_of_other several]
          rfl

end Value

namespace Mapping

variable {below above : Mapping} {path : List Value} {lower upper : Mapping} {value : Value}

/-- At the place or on the way to it, both mappings have something, and not both a mapping. -/
def Clash (below above : Mapping) (path : List Value) : Prop :=
  ∃ prior lower upper, prior <+: path ∧ below.valueAt? prior = some lower ∧
    above.valueAt? prior = some upper ∧ ¬ (lower.IsMapping ∧ upper.IsMapping)

structure Meet (below above : Mapping) (path : List Value) (lower upper : Mapping) : Prop where
  lower : below.valueAt? path = some (.mapping lower)
  upper : above.valueAt? path = some (.mapping upper)

/-- The entries of two mappings, come together. The keys of the lower one come first. -/
structure Joins (lower upper both : Mapping) : Prop where
  keys : both.map Prod.fst = lower.map Prod.fst ++
    (upper.map Prod.fst).filter fun key => (lower.get? key).isNone
  union : ∀ key, (both.get? key).isSome ↔ (lower.get? key).isSome ∨ (upper.get? key).isSome
  onlyLower : ∀ entry ∈ lower, upper.get? entry.1 = none → entry ∈ both
  onlyUpper : ∀ entry ∈ upper, lower.get? entry.1 = none → entry ∈ both

/-- The merged mapping holds what one mapping laid over another has to hold, at every place. -/
structure Merges (below above merged : Mapping) : Prop where
  joined : ∀ path lower upper, Meet below above path lower upper →
    ∃ both, merged.valueAt? path = some (.mapping both) ∧ Joins lower upper both
  given : ∀ path value, above.valueAt? path = some value → ¬ value.IsMapping →
    merged.valueAt? path = some value
  kept : ∀ path value, below.valueAt? path = some value → ¬ Clash below above path →
    merged.valueAt? path = some value ∨ ∃ lower upper, Meet below above path lower upper
  /-- Nothing else stands anywhere. -/
  origin : ∀ path value, merged.valueAt? path = some value →
    above.valueAt? path = some value ∨
    (below.valueAt? path = some value ∧ above.valueAt? path = none ∧ ¬ Clash below above path) ∨
    (value.IsMapping ∧ ∃ lower upper, Meet below above path lower upper)

/-- The upper mapping has nothing to change in itself, nor in what came of laying it over the lower
one. -/
structure Settled (below above : Mapping) : Prop where
  itself : above.overlay above = above
  again : (below.overlay above).overlay above = below.overlay above

theorem isSome_valueAt?_prior {prior : List Value} (leads : prior <+: path)
    (stands : below.valueAt? path = some value) : ∃ found, below.valueAt? prior = some found := by
  obtain ⟨rest, rfl⟩ := leads
  rw [valueAt?, Value.valueAt?_append] at stands
  obtain ⟨found, here, _⟩ := Option.bind_eq_some_iff.mp stands
  exact ⟨found, here⟩

/-- What the upper mapping cuts off is in the way of what the lower one has there. -/
theorem clash_of_cutsOff (stands : below.valueAt? path = some value)
    (cut : (Value.mapping above).cutsOff path = true) : Clash below above path := by
  obtain ⟨prior, upper, leads, here, single⟩ := Value.cutsOff_iff.mp cut
  obtain ⟨lower, there⟩ := isSome_valueAt?_prior leads stands
  exact ⟨prior, lower, upper, leads, there, here, fun both => single both.2⟩

/-- A clash on the way to something of the lower mapping is with a value that cuts it off, unless
the upper mapping has something at the place itself. -/
theorem not_clash_of_open (stands : below.valueAt? path = some value)
    (absent : above.valueAt? path = none) (uncut : (Value.mapping above).cutsOff path = false) :
    ¬ Clash below above path := by
  rintro ⟨prior, lower, upper, leads, there, here, apart⟩
  have several : upper.IsMapping := by
    by_contra single
    rw [Value.cutsOff_iff.mpr ⟨prior, upper, leads, here, single⟩] at uncut
    cases uncut
  have single : ¬ lower.IsMapping := fun also => apart ⟨also, several⟩
  obtain ⟨rest, rfl⟩ := leads
  cases rest with
  | nil =>
      rw [List.append_nil, here] at absent
      cases absent
  | cons key keys =>
      rw [valueAt?, Value.valueAt?_append, ← valueAt?, there, Option.bind_some,
        Value.valueAt?_cons_of_other single] at stands
      cases stands

/-! ## Places after one mapping is laid over another -/

section Laid

variable (keyed : (Value.mapping below).Keyed) (keyedAbove : (Value.mapping above).Keyed)
include keyed keyedAbove

theorem valueAt?_overlay (path : List Value) : (below.overlay above).valueAt? path =
    ((above.valueAt? path).map fun given => given.overlaid (below.valueAt? path)).or
      (if (Value.mapping above).cutsOff path then none else below.valueAt? path) :=
  Value.valueAt?_overlaid keyedAbove keyed.of_some

theorem valueAt?_overlay_of_some (given : above.valueAt? path = some value) :
    (below.overlay above).valueAt? path = some (value.overlaid (below.valueAt? path)) := by
  rw [valueAt?_overlay keyed keyedAbove, given]
  rfl

theorem valueAt?_overlay_of_none (absent : above.valueAt? path = none) :
    (below.overlay above).valueAt? path =
      if (Value.mapping above).cutsOff path then none else below.valueAt? path := by
  rw [valueAt?_overlay keyed keyedAbove, absent]
  rfl

theorem joins_overlay : Joins below above (below.overlay above) := by
  have proper := keyed.proper
  have properAbove := keyedAbove.proper
  refine ⟨keys_overlay proper properAbove, fun key => ?_, fun entry member absent => ?_,
    fun entry member absent => ?_⟩
  · rw [get?_overlay proper.hashable properAbove]
    simp [or_comm]
  · exact (mem_overlay_iff proper properAbove).mpr (Or.inl ⟨member, absent⟩)
  · exact (mem_overlay_iff proper properAbove).mpr (Or.inr (Or.inr ⟨member, absent⟩))

theorem joined_of_meet (meet : Meet below above path lower upper) : ∃ both,
    (below.overlay above).valueAt? path = some (.mapping both) ∧ Joins lower upper both := by
  refine ⟨lower.overlay upper, ?_,
    joins_overlay (keyed.valueAt? meet.lower) (keyedAbove.valueAt? meet.upper)⟩
  rw [valueAt?_overlay_of_some keyed keyedAbove meet.upper, meet.lower]
  rfl

theorem given_overlay (given : above.valueAt? path = some value) (single : ¬ value.IsMapping) :
    (below.overlay above).valueAt? path = some value := by
  rw [valueAt?_overlay_of_some keyed keyedAbove given,
    Value.overlaid_of_not_both fun both => single both.1]

theorem kept_overlay (stands : below.valueAt? path = some value)
    (free : ¬ Clash below above path) : (below.overlay above).valueAt? path = some value ∨
      ∃ lower upper, Meet below above path lower upper := by
  cases given : above.valueAt? path with
  | none =>
      have uncut := mt (clash_of_cutsOff stands) free
      rw [valueAt?_overlay_of_none keyed keyedAbove given, if_neg uncut]
      exact Or.inl stands
  | some other =>
      obtain ⟨⟨lower, rfl⟩, upper, rfl⟩ : value.IsMapping ∧ other.IsMapping := by
        by_contra apart
        exact free ⟨path, value, other, List.prefix_rfl, stands, given, apart⟩
      exact Or.inr ⟨lower, upper, stands, given⟩

theorem origin_overlay (stands : (below.overlay above).valueAt? path = some value) :
    above.valueAt? path = some value ∨
    (below.valueAt? path = some value ∧ above.valueAt? path = none ∧ ¬ Clash below above path) ∨
    (value.IsMapping ∧ ∃ lower upper, Meet below above path lower upper) := by
  cases given : above.valueAt? path with
  | none =>
      rw [valueAt?_overlay_of_none keyed keyedAbove given] at stands
      split at stands
      · cases stands
      · rename_i uncut
        have uncut' := eq_false_of_ne_true uncut
        exact Or.inr (Or.inl ⟨stands, rfl, not_clash_of_open stands given uncut'⟩)
  | some other =>
      rw [valueAt?_overlay_of_some keyed keyedAbove given] at stands
      by_cases both : other.IsMapping ∧ ∃ old ∈ below.valueAt? path, old.IsMapping
      · obtain ⟨⟨upper, rfl⟩, _, old, lower, rfl⟩ := both
        rw [old] at stands
        exact Or.inr (Or.inr ⟨⟨_, (Option.some.inj stands).symm⟩, lower, upper, old, given⟩)
      · rw [Value.overlaid_of_not_both both] at stands
        exact Or.inl stands

theorem merges_overlay : Merges below above (below.overlay above) where
  joined _ _ _ meet := joined_of_meet keyed keyedAbove meet
  given _ _ given single := given_overlay keyed keyedAbove given single
  kept _ _ stands free := kept_overlay keyed keyedAbove stands free
  origin _ _ stands := origin_overlay keyed keyedAbove stands

end Laid

end Mapping

end Laws

namespace Mapping

variable {below above : Mapping}

theorem settled_overlay (keyed : @Value.Keyed .alike (.mapping below))
    (keyedAbove : @Value.Keyed .alike (.mapping above)) : @Settled .alike below above := by
  let := Objects.alike
  have settles := Value.settles keyedAbove
  have alone := Value.mapping.inj (settles none nofun)
  have again := Value.mapping.inj (settles (some (.mapping below)) keyed.of_some)
  exact ⟨alone, again⟩

/-- One mapping laid over another has the entries of both, and wins where not both have a mapping.
An empty one adds nothing. This holds whichever keys are one object; once a mapping is laid over
another, its own keys are the very objects that are there already, so it has nothing to change any
more, whichever keys it has: also those that only are the same because they are one object, and any
number of objects that are not a number. -/
theorem overlay_merges (below above : Mapping) :
    (∀ [Objects], (Value.mapping below).Keyed → (Value.mapping above).Keyed →
      Merges below above (below.overlay above) ∧
      below.overlay [] = below ∧ Mapping.overlay [] above = above) ∧
    (@Value.Keyed .alike (.mapping below) → @Value.Keyed .alike (.mapping above) →
      @Settled .alike below above) := by
  refine ⟨?_, settled_overlay⟩
  intro _ keyed keyedAbove
  exact ⟨merges_overlay keyed keyedAbove, rfl, overlay_nil keyedAbove.proper.distinct⟩

def nestedSettings : Mapping :=
  [(.text "backoff", .mapping [(.text "factor", .int 2)]), (.text "delay", .int 1),
    (.text "notes", .mapping [(.text "old", .null)]), (.float (.nan 1), .int 6),
    (.float (.nan 2), .int 7)]

/-- Changes to the settings, where those are a mapping on both sides or only on one, and under two
objects that are not a number, one of which is a key of the settings. -/
def nestedChanges : Mapping :=
  [(.text "notes", .int 3), (.text "delay", .mapping []), (.float (.nan 2), .int 4),
    (.float (.nan 3), .int 8), (.text "backoff", .mapping [(.text "limit", .int 5)])]

theorem keyed_nestedSettings : @Value.Keyed .alike (.mapping nestedSettings) := by
  let := Objects.alike
  have backoff : (Value.mapping [(.text "factor", .int 2)]).Keyed :=
    Value.keyed_mapping (by decide) (by simp [Value.keyed_of_other])
  have notes : (Value.mapping [(.text "old", .null)]).Keyed :=
    Value.keyed_mapping (by decide) (by simp [Value.keyed_of_other])
  exact Value.keyed_mapping (by decide) (by
    simp [nestedSettings, backoff, notes, Value.keyed_of_other])

theorem keyed_nestedChanges : @Value.Keyed .alike (.mapping nestedChanges) := by
  let := Objects.alike
  have backoff : (Value.mapping [(.text "limit", .int 5)]).Keyed :=
    Value.keyed_mapping (by decide) (by simp [Value.keyed_of_other])
  exact Value.keyed_mapping (by decide) (by
    simp [nestedChanges, backoff, Value.keyed_nil, Value.keyed_of_other])

theorem overlay_merges_nested :
    @overlay .alike nestedSettings nestedChanges =
      [(.text "backoff", .mapping [(.text "factor", .int 2), (.text "limit", .int 5)]),
        (.text "delay", .mapping []), (.text "notes", .int 3), (.float (.nan 1), .int 6),
        (.float (.nan 2), .int 4), (.float (.nan 3), .int 8)] ∧
    @Merges .alike nestedSettings nestedChanges (@overlay .alike nestedSettings nestedChanges) ∧
    @Settled .alike nestedSettings nestedChanges := by
  obtain ⟨laws, settled⟩ := overlay_merges nestedSettings nestedChanges
  obtain ⟨merges, _⟩ := @laws .alike keyed_nestedSettings keyed_nestedChanges
  exact ⟨rfl, merges, settled keyed_nestedSettings keyed_nestedChanges⟩

end Mapping

end Reattempt
