import Mathlib.Tactic
import Reattempt.Proofs.Value.Equality
import Reattempt.Proofs.Value.Mapping

/-!
# Mappings laid over each other

The mapping that is laid over another one changes the entries of that under its own keys, and its
other entries are put behind them in their order (`overlay_eq`). So nothing is left to change if it
is laid over the result once more, as far as its keys are the same as themselves (`overlay_again`),
as all keys are where values that nothing tells apart are one object (`Value.settles`).
-/

set_option autoImplicit false

namespace Reattempt

/-! ## Mappings of keys -/

/-- Every key has the property, as far as it can be reached through mappings alone. -/
inductive Value.EveryKey (valid : Value → Prop) : Value → Prop
  | mapping {entries : Mapping} (keys : ∀ entry ∈ entries, valid entry.1)
      (values : ∀ entry ∈ entries, EveryKey valid entry.2) : EveryKey valid (.mapping entries)
  | other {value : Value} (noMapping : ∀ entries, value ≠ .mapping entries) : EveryKey valid value

variable {valid : Value → Prop} {entries : Mapping} {entry : Value × Value} {key given : Value}

theorem Value.EveryKey.keys (every : (Value.mapping entries).EveryKey valid) :
    ∀ entry ∈ entries, valid entry.1 := by
  cases every with
  | mapping keys _ => exact keys
  | other noMapping => exact absurd rfl (noMapping entries)

theorem Value.EveryKey.values (every : (Value.mapping entries).EveryKey valid) :
    ∀ entry ∈ entries, entry.2.EveryKey valid := by
  cases every with
  | mapping _ values => exact values
  | other noMapping => exact absurd rfl (noMapping entries)

variable [objects : Objects]

structure Value.Keyed (value : Value) : Prop where
  unrepeated : value.Unrepeated
  hashable : value.EveryKey fun key => key.isHashable = true

theorem Value.Unrepeated.values (unrepeated : (Value.mapping entries).Unrepeated) :
    ∀ entry ∈ entries, entry.2.Unrepeated := by
  cases unrepeated with
  | mapping _ values => exact values
  | other noMapping => exact absurd rfl (noMapping entries)

theorem Value.Keyed.values (keyed : (Value.mapping entries).Keyed) (member : entry ∈ entries) :
    entry.2.Keyed :=
  ⟨keyed.unrepeated.values entry member, keyed.hashable.values entry member⟩

theorem Value.Keyed.value_of_get? (keyed : (Value.mapping entries).Keyed)
    (found : entries.get? key = some given) : given.Keyed := by
  obtain ⟨entry, member, rfl⟩ := Mapping.mem_of_get? found
  exact keyed.values member

namespace Mapping

variable {entries below above : Mapping} {entry : Value × Value}
variable {key value old wanted given : Value}

def Hashable (entries : Mapping) : Prop := ∀ entry ∈ entries, entry.1.isHashable = true

/-- The mapping can be one: its keys can be keys, and none is there twice. -/
structure Proper (entries : Mapping) : Prop where
  distinct : entries.Distinct
  hashable : entries.Hashable

instance (entries : Mapping) : Decidable entries.Distinct :=
  inferInstanceAs (Decidable (List.Pairwise _ _))

instance (entries : Mapping) : Decidable entries.Hashable :=
  inferInstanceAs (Decidable (∀ entry ∈ entries, entry.1.isHashable = true))

instance (entries : Mapping) : Decidable entries.Proper :=
  decidable_of_iff (entries.Distinct ∧ entries.Hashable)
    ⟨fun both => ⟨both.1, both.2⟩, fun proper => ⟨proper.distinct, proper.hashable⟩⟩

/-! ## Look-ups -/

theorem get?_eq_none_iff : entries.get? key = none ↔ entries.Lacks key := by
  refine ⟨fun absent => ?_, get?_of_lacks⟩
  induction entries with
  | nil => exact fun _ nothing => absurd nothing List.not_mem_nil
  | cons head entries ih =>
      obtain ⟨other, old⟩ := head
      rw [get?] at absent
      split at absent
      · cases absent
      · rename_i apart
        exact List.forall_mem_cons.mpr ⟨eq_false_of_ne_true apart, ih absent⟩

theorem Proper.tail {head : Value × Value} (proper : Proper (head :: entries)) :
    entries.Proper where
  distinct := (List.pairwise_cons.mp proper.distinct).2
  hashable := (List.forall_mem_cons.mp proper.hashable).2

theorem Proper.hashable_head {head : Value × Value} (proper : Proper (head :: entries)) :
    head.1.isHashable = true := (List.forall_mem_cons.mp proper.hashable).1

/-- Of a key that is the same as another one, no third key is the same as only one of both. -/
theorem Proper.lacks_of_isSame {head : Value × Value} (proper : Proper (head :: entries))
    (same : head.1.isSame key = true) : entries.Lacks key := by
  obtain ⟨first, _⟩ := List.pairwise_cons.mp proper.distinct
  intro later member
  refine eq_false_of_ne_true fun again => ?_
  have joined := Value.isSame_of_isSame proper.hashable_head (proper.tail.hashable later member)
    same again
  rw [first later member] at joined
  cases joined

/-- No key is the same as the one in front of all. -/
theorem Proper.lacks_head {head : Value × Value} (proper : Proper (head :: entries)) :
    entries.Lacks head.1 := by
  obtain ⟨first, _⟩ := List.pairwise_cons.mp proper.distinct
  intro later member
  refine eq_false_of_ne_true fun same => ?_
  have turned := Value.isSame_symm (proper.tail.hashable later member) proper.hashable_head same
  rw [first later member] at turned
  cases turned

theorem get?_congr (hashable : entries.Hashable) (hashableKey : key.isHashable = true)
    (same : key.isSame wanted = true) : entries.get? key = entries.get? wanted := by
  induction entries with
  | nil => rfl
  | cons head entries ih =>
      obtain ⟨hashableHead, hashableRest⟩ := List.forall_mem_cons.mp hashable
      rw [get?, get?, Value.isSame_congr_right hashableHead hashableKey same, ih hashableRest]

theorem get?_of_mem (proper : entries.Proper) (member : entry ∈ entries)
    (same : entry.1.isSame key = true) : entries.get? key = some entry.2 := by
  induction entries with
  | nil => exact absurd member List.not_mem_nil
  | cons head entries ih =>
      rcases List.mem_cons.mp member with rfl | later
      · exact if_pos same
      · have apart : ¬ head.1.isSame key = true := fun found => by
          rw [proper.lacks_of_isSame found entry later] at same
          cases same
        rw [get?, if_neg apart, ih proper.tail later]

theorem get?_put (hashable : entries.Hashable) (hashableKey : key.isHashable = true)
    (value wanted : Value) : (entries.put key value).get? wanted =
      if key.isSame wanted then some value else entries.get? wanted := by
  induction entries with
  | nil => rfl
  | cons head entries ih =>
      obtain ⟨other, old⟩ := head
      obtain ⟨hashableHead, hashableRest⟩ := List.forall_mem_cons.mp hashable
      rw [put]
      split
      · rename_i same
        rw [get?, get?, Value.isSame_congr_left hashableHead hashableKey same]
        split <;> rfl
      · rename_i apart
        rw [get?, get?, ih hashableRest]
        by_cases found : other.isSame wanted = true
        · have missed : ¬ key.isSame wanted = true := fun also =>
            apart (Value.isSame_of_isSame hashableHead hashableKey found also)
          rw [if_pos found, if_neg missed, if_pos found]
        · rw [if_neg found, if_neg found]

theorem Hashable.put (hashable : entries.Hashable) (hashableKey : key.isHashable = true) :
    (entries.put key value).Hashable := by
  intro entry member
  rcases key_of_mem_put member with ⟨old, inside, same⟩ | new
  · rw [← same]
    exact hashable old inside
  · rw [new]
    exact hashableKey

theorem Proper.put (proper : entries.Proper) (hashableKey : key.isHashable = true)
    (value : Value) : (entries.put key value).Proper :=
  ⟨proper.distinct.put key value, proper.hashable.put hashableKey⟩

/-- A value that is put under a key of the mapping takes the place of the one there. -/
theorem put_eq_map (proper : entries.Proper) (found : entries.get? key = some old) :
    entries.put key value =
      entries.map fun entry => if entry.1.isSame key then (entry.1, value) else entry := by
  induction entries with
  | nil => cases found
  | cons head entries ih =>
      rw [get?] at found
      rw [put, List.map_cons]
      split
      · rename_i same
        have unchanged := proper.lacks_of_isSame same
        rw [List.map_congr_left fun later member => if_neg (by simp [unchanged later member]),
          List.map_id']
      · rename_i apart
        rw [if_neg apart] at found
        rw [ih proper.tail found]

/-! ## All entries -/

/-- An entry after another mapping is laid over the one with the entry. -/
def laidOver (above : Mapping) (entry : Value × Value) : Value × Value :=
  (entry.1, ((above.get? entry.1).map fun given => given.overlaid (some entry.2)).getD entry.2)

def newTo (below above : Mapping) : Mapping :=
  above.filter fun entry => (below.get? entry.1).isNone

theorem laidOver_of_some (found : above.get? entry.1 = some given) :
    laidOver above entry = (entry.1, given.overlaid (some entry.2)) := by
  unfold laidOver
  rw [found]
  rfl

theorem laidOver_of_none (absent : above.get? entry.1 = none) : laidOver above entry = entry := by
  unfold laidOver
  rw [absent]
  rfl

theorem laidOver_cons_of_not_isSame (apart : key.isSame entry.1 = false) :
    laidOver ((key, given) :: above) entry = laidOver above entry := by
  unfold laidOver
  rw [get?, if_neg (by simp [apart])]

theorem overlay_cons (below above : Mapping) (key given : Value) :
    below.overlay ((key, given) :: above) =
      (below.put key (given.overlaid (below.get? key))).overlay above := rfl

theorem newTo_put (hashable : below.Hashable) (hashableKey : key.isHashable = true)
    (apart : ∀ entry ∈ above, key.isSame entry.1 = false) (value : Value) :
    (below.put key value).newTo above = below.newTo above := by
  refine List.filter_congr fun entry member => ?_
  rw [get?_put hashable hashableKey, if_neg (by simp [apart entry member])]

section Step

variable (proper : below.Proper) (properAbove : Proper ((key, given) :: above))
include proper properAbove

/-- The keys other than the first one of the upper mapping are left to its others. -/
theorem laidOver_cons_of_apart (member : entry ∈ below) (apart : ¬ entry.1.isSame key = true) :
    laidOver ((key, given) :: above) entry = laidOver above entry := by
  refine laidOver_cons_of_not_isSame (eq_false_of_ne_true fun same => apart ?_)
  exact Value.isSame_symm properAbove.hashable_head (proper.hashable entry member) same

/-- A value that is put under a key of the mapping is not changed again by the other keys. -/
theorem map_laidOver_put_of_some (found : below.get? key = some old) :
    (below.put key (given.overlaid (some old))).map (laidOver above) =
      below.map (laidOver ((key, given) :: above)) := by
  rw [put_eq_map proper found, List.map_map]
  refine List.map_congr_left fun entry member => ?_
  rw [Function.comp_apply]
  split
  · rename_i same
    have same' := Value.isSame_symm (proper.hashable entry member) properAbove.hashable_head same
    have once : above.get? entry.1 = none := get?_of_lacks (properAbove.lacks_of_isSame same')
    have changed : get? ((key, given) :: above) entry.1 = some given := if_pos same'
    have here : old = entry.2 := by
      rw [get?_of_mem proper member same] at found
      exact (Option.some.inj found).symm
    rw [laidOver_of_some changed, ← here]
    exact laidOver_of_none once
  · rename_i apart
    rw [laidOver_cons_of_apart proper properAbove member apart]

/-- A key that is new is put behind, and no other key changes its value. -/
theorem map_laidOver_put_of_none (absent : below.get? key = none) :
    (below.put key given).map (laidOver above) =
      below.map (laidOver ((key, given) :: above)) ++ [(key, given)] := by
  have lacks := get?_eq_none_iff.mp absent
  have others : below.map (laidOver ((key, given) :: above)) = below.map (laidOver above) :=
    List.map_congr_left fun entry member =>
      laidOver_cons_of_apart proper properAbove member (by simp [lacks entry member])
  rw [put_of_lacks lacks, List.map_append, List.map_singleton, others,
    laidOver_of_none (get?_of_lacks properAbove.lacks_head)]

end Step

/-- One mapping laid over another changes the entries of that under its own keys, and its other
entries are put behind. -/
theorem overlay_eq (proper : below.Proper) (properAbove : above.Proper) :
    below.overlay above = below.map (laidOver above) ++ below.newTo above := by
  induction above generalizing below with
  | nil =>
      have unchanged : below.map (laidOver []) = below := List.map_id below
      rw [unchanged, newTo, List.filter_nil, List.append_nil]
      rfl
  | cons head above ih =>
      obtain ⟨key, given⟩ := head
      have hashableKey := properAbove.hashable_head
      obtain ⟨first, _⟩ := List.pairwise_cons.mp properAbove.distinct
      rw [overlay_cons, ih (proper.put hashableKey _) properAbove.tail,
        newTo_put proper.hashable hashableKey first]
      cases found : below.get? key with
      | some old =>
          have there : newTo below ((key, given) :: above) = below.newTo above :=
            List.filter_cons_of_neg (by simp [found])
          rw [map_laidOver_put_of_some proper properAbove found, there]
      | none =>
          have behind : newTo below ((key, given) :: above) =
              (key, given) :: below.newTo above :=
            List.filter_cons_of_pos (by simp [found])
          rw [Value.overlaid_none, map_laidOver_put_of_none proper properAbove found, behind,
            List.append_assoc, List.singleton_append]

theorem Proper.overlay (proper : below.Proper) (properAbove : above.Proper) :
    (below.overlay above).Proper := by
  induction above generalizing below with
  | nil => exact proper
  | cons head above ih =>
      obtain ⟨key, given⟩ := head
      rw [overlay_cons]
      exact ih (proper.put properAbove.hashable_head _) properAbove.tail

/-- The keys of one mapping in their order, and behind them those of the other that are new. -/
theorem keys_overlay (proper : below.Proper) (properAbove : above.Proper) :
    (below.overlay above).map Prod.fst =
      below.map Prod.fst ++ (above.map Prod.fst).filter fun key => (below.get? key).isNone := by
  rw [overlay_eq proper properAbove, List.map_append, List.map_map, List.filter_map]
  rfl

/-- An entry is one that only one of both mappings has, or a changed one. -/
theorem mem_overlay_iff (proper : below.Proper) (properAbove : above.Proper) :
    entry ∈ below.overlay above ↔
      (entry ∈ below ∧ above.get? entry.1 = none) ∨
      (∃ lower ∈ below, ∃ given, above.get? lower.1 = some given ∧
        entry = (lower.1, given.overlaid (some lower.2))) ∨
      (entry ∈ above ∧ below.get? entry.1 = none) := by
  rw [overlay_eq proper properAbove, List.mem_append, List.mem_map, newTo, List.mem_filter,
    Option.isNone_iff_eq_none, ← or_assoc]
  refine or_congr_left ⟨?_, ?_⟩
  · rintro ⟨lower, member, rfl⟩
    cases found : above.get? lower.1 with
    | none =>
        rw [laidOver_of_none found]
        exact Or.inl ⟨member, found⟩
    | some given => exact Or.inr ⟨lower, member, given, found, laidOver_of_some found⟩
  · rintro (⟨member, absent⟩ | ⟨lower, member, given, found, rfl⟩)
    · exact ⟨entry, member, laidOver_of_none absent⟩
    · exact ⟨lower, member, laidOver_of_some found⟩

/-- What a key is worth is laid over what it was worth below. -/
theorem get?_overlay (hashable : below.Hashable) (properAbove : above.Proper) (wanted : Value) :
    (below.overlay above).get? wanted =
      ((above.get? wanted).map fun given => given.overlaid (below.get? wanted)).or
        (below.get? wanted) := by
  induction above generalizing below with
  | nil => rfl
  | cons head above ih =>
      obtain ⟨key, given⟩ := head
      have hashableKey := properAbove.hashable_head
      have put : (below.put key (given.overlaid (below.get? key))).Hashable :=
        hashable.put hashableKey
      rw [overlay_cons, ih put properAbove.tail, get?_put hashable hashableKey, get?]
      by_cases same : key.isSame wanted = true
      · have once : get? above wanted = none := get?_of_lacks (properAbove.lacks_of_isSame same)
        rw [once, if_pos same, if_pos same, get?_congr hashable hashableKey same]
        rfl
      · rw [if_neg same, if_neg same]

end Mapping

/-! ## Values laid over others -/

theorem Value.overlaid_of_other {value : Value} (noMapping : ∀ entries, value ≠ .mapping entries)
    (old : Option Value) : value.overlaid old = value := by
  cases value with
  | mapping entries => exact absurd rfl (noMapping entries)
  | _ => rfl

theorem Value.mapping_overlaid_of_other {entries : Mapping} {old : Option Value}
    (noMapping : ∀ lower, old ≠ some (.mapping lower)) :
    (Value.mapping entries).overlaid old = .mapping entries := by
  cases old with
  | none => rfl
  | some value =>
      cases value with
      | mapping lower => exact absurd rfl (noMapping lower)
      | _ => rfl

theorem Value.Keyed.proper {entries : Mapping} (keyed : (Value.mapping entries).Keyed) :
    entries.Proper := ⟨keyed.unrepeated.distinct, keyed.hashable.keys⟩

theorem Value.keyed_mapping {entries : Mapping} (proper : entries.Proper)
    (values : ∀ entry ∈ entries, entry.2.Keyed) : (Value.mapping entries).Keyed where
  unrepeated := .mapping proper.distinct fun entry member => (values entry member).unrepeated
  hashable := .mapping proper.hashable fun entry member => (values entry member).hashable

theorem Value.keyed_of_other {value : Value} (noMapping : ∀ entries, value ≠ .mapping entries) :
    value.Keyed := ⟨.other noMapping, .other noMapping⟩

theorem Value.keyed_nil : (Value.mapping []).Keyed := keyed_mapping ⟨.nil, nofun⟩ nofun

theorem Value.Keyed.of_some {lower : Value} (keyed : lower.Keyed) :
    ∀ value ∈ some lower, value.Keyed := by
  rintro _ ⟨⟩
  exact keyed

namespace Mapping

variable {below above : Mapping}

theorem keyed_overlay (keyed : (Value.mapping below).Keyed)
    (keyedAbove : (Value.mapping above).Keyed)
    (inner : ∀ entry ∈ above, ∀ lower : Value, lower.Keyed →
      (entry.2.overlaid (some lower)).Keyed) : (Value.mapping (below.overlay above)).Keyed := by
  have properAbove := keyedAbove.proper
  refine Value.keyed_mapping (keyed.proper.overlay properAbove) fun entry member => ?_
  rcases (mem_overlay_iff keyed.proper properAbove).mp member with
    ⟨kept, _⟩ | ⟨lower, inside, given, found, rfl⟩ | ⟨new, _⟩
  · exact keyed.values kept
  · obtain ⟨upper, here, rfl⟩ := mem_of_get? found
    exact inner upper here lower.2 (keyed.values inside)
  · exact keyedAbove.values new

end Mapping

theorem Value.Keyed.overlaid {value : Value} {old : Option Value} (keyed : value.Keyed)
    (keyedOld : ∀ lower ∈ old, lower.Keyed) : (value.overlaid old).Keyed := by
  induction keyed.hashable generalizing old with
  | other noMapping =>
      rw [overlaid_of_other noMapping]
      exact keyed
  | @mapping entries keys values ih =>
      by_cases both : ∃ lower, old = some (.mapping lower)
      · obtain ⟨lower, rfl⟩ := both
        refine Mapping.keyed_overlay (keyedOld _ rfl) keyed fun entry member inner keyedInner => ?_
        exact ih entry member (keyed.values member) keyedInner.of_some
      · rw [mapping_overlaid_of_other fun lower same => both ⟨lower, same⟩]
        exact keyed

/-! ## Laying over once more -/

/-- Laid over a value again, the value changes nothing more. -/
def Value.Settles (value : Value) : Prop :=
  ∀ old : Option Value, (∀ lower ∈ old, lower.Keyed) →
    value.overlaid (some (value.overlaid old)) = value.overlaid old

namespace Mapping

variable {below above : Mapping} {entry : Value × Value}

theorem newTo_overlay (hashable : below.Hashable) (properAbove : above.Proper)
    (selfSame : ∀ entry ∈ above, entry.1.isSame entry.1 = true) :
    (below.overlay above).newTo above = [] := by
  refine List.filter_eq_nil_iff.mpr fun entry member => ?_
  rw [get?_overlay hashable properAbove, get?_of_mem properAbove member (selfSame entry member)]
  exact Bool.false_ne_true

/-- The entries of the result are those that the mapping has nothing to change in. -/
theorem laidOver_overlay (keyed : (Value.mapping below).Keyed) (properAbove : above.Proper)
    (selfSame : ∀ entry ∈ above, entry.1.isSame entry.1 = true)
    (settles : ∀ entry ∈ above, entry.2.Settles) (member : entry ∈ below.overlay above) :
    laidOver above entry = entry := by
  rcases (mem_overlay_iff keyed.proper properAbove).mp member with
    ⟨_, absent⟩ | ⟨lower, inside, given, found, rfl⟩ | ⟨upper, _⟩
  · exact laidOver_of_none absent
  · obtain ⟨upper, here, rfl⟩ := mem_of_get? found
    have twice : laidOver above (lower.1, upper.2.overlaid (some lower.2)) =
        (lower.1, upper.2.overlaid (some (upper.2.overlaid (some lower.2)))) :=
      laidOver_of_some found
    have settled := settles upper here (some lower.2) (keyed.values inside).of_some
    rw [twice, settled]
  · have unchanged := settles entry upper none nofun
    rw [Value.overlaid_none] at unchanged
    rw [laidOver_of_some (get?_of_mem properAbove upper (selfSame entry upper)), unchanged]

theorem overlay_again (keyed : (Value.mapping below).Keyed) (properAbove : above.Proper)
    (selfSame : ∀ entry ∈ above, entry.1.isSame entry.1 = true)
    (settles : ∀ entry ∈ above, entry.2.Settles) :
    (below.overlay above).overlay above = below.overlay above := by
  rw [overlay_eq (keyed.proper.overlay properAbove) properAbove,
    newTo_overlay keyed.proper.hashable properAbove selfSame, List.append_nil]
  exact (List.map_congr_left fun entry member =>
    laidOver_overlay keyed properAbove selfSame settles member).trans (List.map_id' _)

end Mapping

omit objects in
/-- Where values that nothing tells apart are one object, a value changes nothing if it is laid over
its result. -/
theorem Value.settles {value : Value} (keyed : @Value.Keyed .alike value) :
    @Value.Settles .alike value := by
  let := Objects.alike
  induction keyed.hashable with
  | other noMapping =>
      intro old _
      rw [overlaid_of_other noMapping, overlaid_of_other noMapping]
  | @mapping entries keys values ih =>
      have selfSame : ∀ entry ∈ entries, entry.1.isSame entry.1 = true := fun entry member =>
        isSame_self (keys entry member)
      have again {below : Mapping} (keyedBelow : (Value.mapping below).Keyed) :=
        Mapping.overlay_again keyedBelow keyed.proper selfSame fun entry member =>
          ih entry member (keyed.values member)
      intro old lowerKeyed
      by_cases both : ∃ lower, old = some (.mapping lower)
      · obtain ⟨lower, rfl⟩ := both
        exact congrArg Value.mapping (again (lowerKeyed _ rfl))
      · rw [mapping_overlaid_of_other fun lower same => both ⟨lower, same⟩]
        have fresh := again keyed_nil
        rw [Mapping.overlay_nil keyed.unrepeated.distinct] at fresh
        exact congrArg Value.mapping fresh

end Reattempt
