import Mathlib.Tactic
import Reattempt.Yaml.Document
import Reattempt.Proofs.Field.Validation
import Reattempt.Proofs.Value.Mapping

/-!
# Keys of documents

No mapping of a document has a key twice. This holds of every mapping that is a value of another
one, down from the root, whatever the text repeats and however its collections are nested
(`load_unrepeated`).
-/

set_option autoImplicit false

namespace Reattempt

namespace Yaml

theorem Scalar.raising_eq_ok {α : Type} {made : Except Failure α} {value : α}
    (ok : Scalar.raising made = .ok value) : made = .ok value := by
  cases made with
  | ok given =>
      cases ok
      rfl
  | error failure => cases ok

theorem Scalar.timestamp_noMapping {codes : List Nat} {value : Value}
    (ok : Scalar.timestamp codes = .ok value) (entries : Mapping) : value ≠ .mapping entries := by
  unfold Scalar.timestamp at ok
  split at ok
  · rename_i date _
    cases fault : date.fault? with
    | none =>
        rw [fault] at ok
        cases ok
        exact nofun
    | some found =>
        rw [fault] at ok
        cases ok
  · cases ok

/-- No scalar is a mapping. -/
theorem Scalar.valueOf_noMapping {tag : Tag} {written : LooseText} {value : Value}
    (ok : Scalar.valueOf tag written = .ok value) (entries : Mapping) :
    value ≠ .mapping entries := by
  have ofMap {α : Type} {made : Except Failure α} {toValue : α → Value}
      (raised : Scalar.raising (made.map toValue) = .ok value)
      (leaf : ∀ given, toValue given ≠ .mapping entries) : value ≠ .mapping entries := by
    obtain ⟨given, _, rfl⟩ := (map_eq_ok_iff _ _ _).mp (Scalar.raising_eq_ok raised)
    exact leaf given
  unfold Scalar.valueOf at ok
  split at ok
  · cases ok
    exact nofun
  · exact ofMap ok fun _ => nofun
  · exact ofMap ok fun _ => nofun
  · exact ofMap ok fun _ => nofun
  · exact Scalar.timestamp_noMapping (Scalar.raising_eq_ok ok) entries
  · cases ok
    cases written <;> exact nofun
  · simp only at ok
    cases read : Scalar.bytes? written.codes with
    | none =>
        rw [read] at ok
        cases ok
    | some bytes =>
        rw [read] at ok
        cases ok
        exact nofun
  · cases ok

namespace Document

variable {document : Document} {values : Array Value}

/-! ## One mapping -/

def Apart (keys : List Key) : Prop := keys.Pairwise fun key later => key.isSame later = false

theorem mem_putKey {entries : List (Key × Value)} {key : Key} {value : Value}
    {entry : Key × Value} (member : entry ∈ putKey entries key value) :
    (entry.1 ∈ entries.map Prod.fst ∨ entry.1 = key) ∧ (entry ∈ entries ∨ entry.2 = value) := by
  induction entries with
  | nil =>
      rw [putKey, List.mem_singleton] at member
      subst member
      exact ⟨Or.inr rfl, Or.inr rfl⟩
  | cons first entries ih =>
      obtain ⟨other, old⟩ := first
      rw [putKey] at member
      split at member
      · rcases List.mem_cons.mp member with rfl | later
        · exact ⟨Or.inl List.mem_cons_self, Or.inr rfl⟩
        · exact ⟨Or.inl (List.mem_cons_of_mem _ (List.mem_map_of_mem later)),
            Or.inl (List.mem_cons_of_mem _ later)⟩
      · rcases List.mem_cons.mp member with rfl | later
        · exact ⟨Or.inl List.mem_cons_self, Or.inl List.mem_cons_self⟩
        · obtain ⟨keyKnown, known⟩ := ih later
          exact ⟨keyKnown.imp_left (List.mem_cons_of_mem _),
            known.imp_left (List.mem_cons_of_mem _)⟩

theorem apart_putKey {entries : List (Key × Value)} (apart : Apart (entries.map Prod.fst))
    (key : Key) (value : Value) : Apart ((putKey entries key value).map Prod.fst) := by
  induction entries with
  | nil => exact List.pairwise_singleton _ _
  | cons first entries ih =>
      obtain ⟨other, old⟩ := first
      obtain ⟨new, rest⟩ := List.pairwise_cons.mp apart
      rw [putKey]
      split
      · exact List.pairwise_cons.mpr ⟨new, rest⟩
      · rename_i different
        refine List.pairwise_cons.mpr ⟨fun later member => ?_, ih rest⟩
        obtain ⟨entry, put, rfl⟩ := List.mem_map.mp member
        rcases (mem_putKey put).1 with old | last
        · exact new entry.1 old
        · rw [last]
          exact eq_false_of_ne_true different

structure Sound (entries : List (Key × Value)) : Prop where
  apart : Apart (entries.map Prod.fst)
  values : ∀ entry ∈ entries, entry.2.Unrepeated

theorem sound_putKey {entries : List (Key × Value)} (sound : Sound entries) (key : Key)
    {value : Value} (unrepeated : value.Unrepeated) : Sound (putKey entries key value) where
  apart := apart_putKey sound.apart key value
  values := by
    intro entry member
    rcases (mem_putKey member).2 with old | new
    · exact sound.values entry old
    · rw [new]
      exact unrepeated

theorem not_isSame_of_apart {a b : Key} (different : a.isSame b = false) :
    a.value.isSame b.value = false := by
  simp only [Key.isSame, Bool.or_eq_false_iff] at different
  exact different.2

/-- The values of nodes that are known so far have no repeated keys. -/
def Settled (values : Array Value) : Prop :=
  ∀ id : NodeId, (values[id]?.getD .null).Unrepeated

theorem unrepeated_mappingOf (settled : Settled values) (id : NodeId) :
    (Value.mapping (document.mappingOf values id)).Unrepeated := by
  let put (made : List (Key × Value)) (entry : NodeId × NodeId) : List (Key × Value) :=
    putKey made (document.key values entry.1) (values[entry.2]?.getD .null)
  have sound (pairs : List (NodeId × NodeId)) (made : List (Key × Value)) (before : Sound made) :
      Sound (pairs.foldl put made) := by
    induction pairs generalizing made with
    | nil => exact before
    | cons pair pairs ih => exact ih _ (sound_putKey before _ (settled pair.2))
  have made := sound ((document.entries id).toOption.getD []) [] ⟨.nil, by simp⟩
  refine .mapping ?_ fun entry member => ?_
  · have apart := List.pairwise_map.mp made.apart
    exact List.pairwise_map.mpr (apart.imp not_isSame_of_apart)
  · obtain ⟨known, old, rfl⟩ := List.mem_map.mp member
    exact made.values known old

/-! ## All nodes -/

theorem unrepeated_list (items : List Value) : (Value.list items).Unrepeated :=
  .other fun _ => nofun

theorem atOnce_noMapping {tag : Tag} {id : NodeId} {value : Value}
    (made : document.atOnce tag id = .ok (some value)) (entries : Mapping) :
    value ≠ .mapping entries := by
  unfold atOnce at made
  split at made
  · cases made
  · split at made
    · cases made
    · split at made
      · obtain ⟨inner, ok, same⟩ := (map_eq_ok_iff _ _ _).mp made
        cases same
        exact Scalar.valueOf_noMapping ok entries
      · cases made
      · cases made
      · split at made
        · cases made
        · obtain ⟨inner, ok, same⟩ := (map_eq_ok_iff _ _ _).mp made
          cases same
          exact Scalar.valueOf_noMapping ok entries

theorem unrepeated_valueWith (settled : Settled values) (id : NodeId) :
    (document.valueWith values id).Unrepeated := by
  unfold valueWith
  split
  · exact unrepeated_list _
  · exact unrepeated_list _
  · exact unrepeated_list _
  · exact unrepeated_mappingOf settled id
  · cases made : document.atOnce (document.keyTag id) id with
    | error error => exact Value.unrepeated_null
    | ok value? =>
        cases value? with
        | none => exact Value.unrepeated_null
        | some value => exact .other (atOnce_noMapping made)

theorem settled_setIfInBounds (settled : Settled values) (id : NodeId) {value : Value}
    (unrepeated : value.Unrepeated) : Settled (values.setIfInBounds id value) := by
  intro other
  rw [Array.getElem?_setIfInBounds]
  split
  · split
    · exact unrepeated
    · exact Value.unrepeated_null
  · exact settled other

theorem settled_refine (settled : Settled values) : Settled (document.refine values) := by
  unfold refine
  exact Array.foldl_induction (fun _ made => Settled made) settled fun _ made known =>
    settled_setIfInBounds known _ (unrepeated_valueWith known _)

theorem unrepeated_standIn (node : Node) : (standIn node).Unrepeated := by
  unfold standIn
  split
  · exact unrepeated_list []
  · exact unrepeated_list []
  · exact unrepeated_list []
  · exact .mapping .nil (by simp)
  · exact Value.unrepeated_null

theorem settled_standIns (nodes : Array Node) : Settled (nodes.map standIn) := by
  intro id
  rw [Array.getElem?_map]
  cases nodes[id]? with
  | none => exact Value.unrepeated_null
  | some node => exact unrepeated_standIn node

theorem value_unrepeated {value : Value} (made : document.value = .ok value) :
    value.Unrepeated := by
  obtain ⟨_, _, returned⟩ := (bind_eq_ok_iff _ _ _).mp made
  cases returned
  have settled (rounds : List Nat) (known : Array Value) (before : Settled known) :
      Settled (rounds.foldl (fun values _ => document.refine values) known) := by
    induction rounds generalizing known with
    | nil => exact before
    | cons round rounds ih => exact ih _ (settled_refine before)
  exact settled _ _ (settled_standIns _) _

end Document

/-- No mapping in a document has a key twice, whatever the text of the document repeats. -/
theorem load_unrepeated {text : String} {value : Value} (loaded : load text = .ok value) :
    value.Unrepeated := by
  unfold load at loaded
  dsimp only at loaded
  split at loaded
  · cases loaded
  · obtain ⟨document?, _, made⟩ := (bind_eq_ok_iff _ _ _).mp loaded
    cases document? with
    | none =>
        cases made
        exact Value.unrepeated_null
    | some document => exact Document.value_unrepeated made

end Yaml
end Reattempt
