import Mathlib.Tactic
import Reattempt.Value.Mapping

/-!
# What mappings hold

A text is the same as nothing but itself, so that what a mapping holds under a text follows its
changes one by one. A mapping in which no two keys are the same is what it gives when it is laid
over an empty one, and laid over a single entry it keeps its other entries in their order
(`overlay_cons_text`). In a value that is unrepeated no mapping has a key twice, however deep it
stands.
-/

set_option autoImplicit false

namespace Reattempt

variable [objects : Objects]

theorem Value.isSame_text_iff (key : Value) (text : String) :
    key.isSame (.text text) = true ↔ key = .text text := by
  cases key <;> simp [Value.isSame, Value.isOne, Value.equalBy, Value.equalLeaf, Value.numeric?]

theorem Value.text_isSame_iff (text : String) (key : Value) :
    (Value.text text).isSame key = true ↔ key = .text text := by
  cases key with
  | text other =>
      simp only [Value.isSame, Value.isOne, Value.equalBy, Value.equalLeaf, Value.numeric?,
        Bool.false_or, beq_iff_eq, Value.text.injEq]
      exact eq_comm
  | _ => simp [Value.isSame, Value.isOne, Value.equalBy, Value.equalLeaf, Value.numeric?]

theorem Value.not_isSame_text {key : Value} {text : String} (apart : key ≠ .text text) :
    key.isSame (.text text) = false :=
  eq_false_of_ne_true (mt (Value.isSame_text_iff key text).mp apart)

theorem Value.isSame_text (text : String) : (Value.text text).isSame (.text text) = true :=
  (Value.isSame_text_iff _ _).mpr rfl

@[simp] theorem Value.overlaid_none (value : Value) : value.overlaid none = value := by
  cases value <;> rfl

namespace Mapping

variable {entries above below : Mapping} {key value : Value} {name wanted : String}

/-- No key of the mapping is the same as one before it. -/
def Distinct (entries : Mapping) : Prop :=
  entries.Pairwise fun entry later => entry.1.isSame later.1 = false

def Lacks (entries : Mapping) (key : Value) : Prop :=
  ∀ entry ∈ entries, entry.1.isSame key = false

/-! ## Values under a text -/

theorem get?_cons_text :
    Mapping.get? ((.text name, value) :: entries) (.text name) = some value := by
  rw [get?, if_pos (Value.isSame_text name)]

theorem get?_cons_of_ne (apart : key ≠ .text name) :
    Mapping.get? ((key, value) :: entries) (.text name) = entries.get? (.text name) := by
  rw [get?, if_neg (by simp [Value.not_isSame_text apart])]

theorem put_cons_text (old : Value) :
    Mapping.put ((.text name, old) :: entries) (.text name) value =
      (.text name, value) :: entries := by
  rw [put, if_pos (Value.isSame_text name)]

theorem put_cons_of_not_isSame {other old : Value} (apart : other.isSame key = false) :
    Mapping.put ((other, old) :: entries) key value = (other, old) :: entries.put key value := by
  rw [put, if_neg (by simp [apart])]

theorem get?_put_text (entries : Mapping) (name : String) (value : Value) :
    (entries.put (.text name) value).get? (.text name) = some value := by
  induction entries with
  | nil => exact get?_cons_text
  | cons entry entries ih =>
      obtain ⟨other, old⟩ := entry
      by_cases same : other = .text name
      · rw [same, put_cons_text, get?_cons_text]
      · rw [put_cons_of_not_isSame (Value.not_isSame_text same), get?_cons_of_ne same, ih]

theorem get?_put_of_ne (entries : Mapping) (value : Value) (apart : name ≠ wanted) :
    (entries.put (.text name) value).get? (.text wanted) = entries.get? (.text wanted) := by
  have apart' : Value.text name ≠ .text wanted := fun same => apart (Value.text.inj same)
  induction entries with
  | nil => exact get?_cons_of_ne apart'
  | cons entry entries ih =>
      obtain ⟨other, old⟩ := entry
      by_cases same : other = .text name
      · rw [same, put_cons_text, get?_cons_of_ne apart', get?_cons_of_ne apart']
      · rw [put_cons_of_not_isSame (Value.not_isSame_text same)]
        by_cases found : other = .text wanted
        · rw [found, get?_cons_text, get?_cons_text]
        · rw [get?_cons_of_ne found, get?_cons_of_ne found, ih]

/-- Entries are left out without an effect on a text under which none of them is left out. -/
theorem get?_filter {keep : Value × Value → Bool} (kept : ∀ value, keep (.text name, value) = true)
    (entries : Mapping) :
    Mapping.get? (entries.filter keep) (.text name) = entries.get? (.text name) := by
  induction entries with
  | nil => rfl
  | cons entry entries ih =>
      obtain ⟨key, value⟩ := entry
      by_cases same : key = .text name
      · subst same
        rw [List.filter_cons_of_pos (kept value), get?_cons_text, get?_cons_text]
      · rw [get?_cons_of_ne same, ← ih]
        by_cases stays : keep (key, value) = true
        · rw [List.filter_cons_of_pos stays, get?_cons_of_ne same]
        · rw [List.filter_cons_of_neg stays]

theorem mem_of_get? (found : entries.get? key = some value) :
    ∃ entry ∈ entries, entry.2 = value := by
  induction entries with
  | nil => cases found
  | cons entry entries ih =>
      obtain ⟨other, old⟩ := entry
      rw [get?] at found
      split at found
      · cases found
        exact ⟨_, List.mem_cons_self, rfl⟩
      · obtain ⟨later, member, same⟩ := ih found
        exact ⟨later, List.mem_cons_of_mem _ member, same⟩

theorem get?_of_lacks (new : entries.Lacks key) : entries.get? key = none := by
  induction entries with
  | nil => rfl
  | cons entry entries ih =>
      obtain ⟨other, old⟩ := entry
      have apart : other.isSame key = false := new (other, old) List.mem_cons_self
      rw [get?, if_neg (by simp [apart])]
      exact ih fun later member => new later (List.mem_cons_of_mem _ member)

theorem lacks_erase (entries : Mapping) (key : Value) : (entries.erase key).Lacks key := by
  intro entry member
  have kept := (List.mem_filter.mp member).2
  simpa using kept

theorem get?_erase (entries : Mapping) (key : Value) : (entries.erase key).get? key = none :=
  get?_of_lacks (lacks_erase entries key)

theorem erase_cons_text :
    Mapping.erase ((.text name, value) :: entries) (.text name) = entries.erase (.text name) :=
  List.filter_cons_of_neg (by simp [Value.isSame_text])

theorem erase_cons_of_ne (apart : key ≠ .text name) :
    Mapping.erase ((key, value) :: entries) (.text name) =
      (key, value) :: entries.erase (.text name) :=
  List.filter_cons_of_pos (by simp [Value.not_isSame_text apart])

theorem get?_erase_of_ne (entries : Mapping) (apart : name ≠ wanted) :
    (entries.erase (.text name)).get? (.text wanted) = entries.get? (.text wanted) := by
  refine get?_filter (fun value => ?_) entries
  have apart' : Value.text wanted ≠ .text name := fun same => apart (Value.text.inj same).symm
  simp [Value.not_isSame_text apart']

theorem Distinct.lacks_text (distinct : Distinct ((.text name, value) :: entries)) :
    entries.Lacks (.text name) := by
  obtain ⟨first, _⟩ := List.pairwise_cons.mp distinct
  intro later member
  refine Value.not_isSame_text fun same => ?_
  have apart := first later member
  rw [same, Value.isSame_text] at apart
  cases apart

theorem erase_of_lacks (new : entries.Lacks key) : entries.erase key = entries :=
  List.filter_eq_self.mpr fun entry member => by simp [new entry member]

/-- The entry under a text stands somewhere among the others. -/
theorem perm_cons_erase (distinct : entries.Distinct)
    (found : entries.get? (.text name) = some value) :
    ((.text name, value) :: entries.erase (.text name)).Perm entries := by
  induction entries with
  | nil => cases found
  | cons head entries ih =>
      obtain ⟨key, old⟩ := head
      obtain ⟨_, rest⟩ := List.pairwise_cons.mp distinct
      by_cases same : key = .text name
      · subst same
        rw [get?_cons_text] at found
        cases found
        rw [erase_cons_text, erase_of_lacks distinct.lacks_text]
      · rw [get?_cons_of_ne same] at found
        rw [erase_cons_of_ne same]
        exact (List.Perm.swap _ _ _).trans ((ih rest found).cons _)

/-! ## Changed mappings -/

theorem key_of_mem_put {entry : Value × Value} (member : entry ∈ entries.put key value) :
    (∃ old ∈ entries, old.1 = entry.1) ∨ entry.1 = key := by
  induction entries with
  | nil => exact Or.inr (congrArg Prod.fst (List.mem_singleton.mp member))
  | cons head entries ih =>
      obtain ⟨other, old⟩ := head
      rw [put] at member
      split at member
      · rcases List.mem_cons.mp member with rfl | later
        · exact Or.inl ⟨_, List.mem_cons_self, rfl⟩
        · exact Or.inl ⟨entry, List.mem_cons_of_mem _ later, rfl⟩
      · rcases List.mem_cons.mp member with rfl | later
        · exact Or.inl ⟨_, List.mem_cons_self, rfl⟩
        · rcases ih later with ⟨kept, inside, same⟩ | new
          · exact Or.inl ⟨kept, List.mem_cons_of_mem _ inside, same⟩
          · exact Or.inr new

theorem Distinct.put (distinct : entries.Distinct) (key value : Value) :
    (entries.put key value).Distinct := by
  induction entries with
  | nil => exact List.pairwise_singleton _ _
  | cons head entries ih =>
      obtain ⟨other, old⟩ := head
      obtain ⟨first, rest⟩ := List.pairwise_cons.mp distinct
      rw [Mapping.put]
      split
      · exact List.pairwise_cons.mpr ⟨first, rest⟩
      · rename_i apart
        refine List.pairwise_cons.mpr ⟨fun later member => ?_, ih rest⟩
        rcases key_of_mem_put member with ⟨kept, inside, same⟩ | new
        · rw [← same]
          exact first kept inside
        · rw [new]
          exact eq_false_of_ne_true apart

theorem Distinct.erase (distinct : entries.Distinct) (key : Value) :
    (entries.erase key).Distinct := List.Pairwise.filter _ distinct

theorem erase_put (entries : Mapping) (name : String) (value : Value) :
    (entries.put (.text name) value).erase (.text name) = entries.erase (.text name) := by
  induction entries with
  | nil => exact erase_cons_text
  | cons head entries ih =>
      obtain ⟨key, old⟩ := head
      by_cases same : key = .text name
      · rw [same, put_cons_text, erase_cons_text, erase_cons_text]
      · rw [put_cons_of_not_isSame (Value.not_isSame_text same), erase_cons_of_ne same,
          erase_cons_of_ne same, ih]

/-! ## Entries apart from some names -/

def without (names : List String) (entries : Mapping) : Mapping :=
  entries.filter fun entry => !names.any fun name => entry.1.isSame (.text name)

theorem without_cons_named {names : List String} (member : name ∈ names) :
    Mapping.without names ((.text name, value) :: entries) = entries.without names := by
  refine List.filter_cons_of_neg ?_
  have named : (names.any fun other => (Value.text name).isSame (.text other)) = true :=
    List.any_eq_true.mpr ⟨name, member, Value.isSame_text name⟩
  simp [named]

theorem get?_without {names : List String} (apart : wanted ∉ names) (entries : Mapping) :
    (entries.without names).get? (.text wanted) = entries.get? (.text wanted) := by
  refine get?_filter (fun value => ?_) entries
  have unnamed : (names.any fun name => (Value.text wanted).isSame (.text name)) = false := by
    refine List.any_eq_false.mpr fun name member same => apart ?_
    rw [Value.text.inj ((Value.isSame_text_iff _ _).mp same)]
    exact member
  simp [unnamed]

theorem without_put {names : List String} (member : name ∈ names) (entries : Mapping)
    (value : Value) : (entries.put (.text name) value).without names = entries.without names := by
  induction entries with
  | nil => exact without_cons_named member
  | cons entry entries ih =>
      obtain ⟨key, old⟩ := entry
      by_cases same : key = .text name
      · rw [same, put_cons_text, without_cons_named member, without_cons_named member]
      · rw [put_cons_of_not_isSame (Value.not_isSame_text same)]
        simp only [without, List.filter_cons] at ih ⊢
        rw [ih]

theorem without_erase {names : List String} (member : name ∈ names) (entries : Mapping) :
    (entries.erase (.text name)).without names = entries.without names := by
  unfold without erase
  rw [List.filter_filter]
  refine List.filter_congr fun entry _ => ?_
  by_cases same : entry.1.isSame (.text name) = true
  · have named : (names.any fun other => entry.1.isSame (.text other)) = true :=
      List.any_eq_true.mpr ⟨name, member, same⟩
    simp [named]
  · simp [same]

/-! ## Laying over -/

theorem put_of_lacks (new : entries.Lacks key) :
    entries.put key value = entries ++ [(key, value)] := by
  induction entries with
  | nil => rfl
  | cons entry entries ih =>
      obtain ⟨other, old⟩ := entry
      have apart : other.isSame key = false := new (other, old) List.mem_cons_self
      rw [put_cons_of_not_isSame apart,
        ih fun later member => new later (List.mem_cons_of_mem _ member)]
      rfl

theorem lacks_append {new : Value} (lacks : entries.Lacks new) (apart : key.isSame new = false) :
    Mapping.Lacks (entries ++ [(key, value)]) new := by
  intro entry member
  rcases List.mem_append.mp member with old | last
  · exact lacks entry old
  · rw [List.mem_singleton.mp last]
    exact apart

/-- Keys that are all new are put behind the ones that are there. -/
theorem overlay_of_lacks (distinct : above.Distinct)
    (new : ∀ entry ∈ above, below.Lacks entry.1) : below.overlay above = below ++ above := by
  unfold overlay
  induction above generalizing below with
  | nil => rw [Value.overlaidEntries, List.append_nil]
  | cons entry above ih =>
      obtain ⟨key, value⟩ := entry
      obtain ⟨first, rest⟩ := List.pairwise_cons.mp distinct
      have absent : below.Lacks key := new (key, value) List.mem_cons_self
      have newLater : ∀ later ∈ above, Mapping.Lacks (below ++ [(key, value)]) later.1 :=
        fun later member =>
          lacks_append (new later (List.mem_cons_of_mem _ member)) (first later member)
      rw [Value.overlaidEntries, Value.overlaidEntry, get?_of_lacks absent, Value.overlaid_none,
        put_of_lacks absent, ih rest newLater, List.append_assoc]
      rfl

theorem overlay_nil (distinct : above.Distinct) : Mapping.overlay [] above = above :=
  overlay_of_lacks distinct fun _ _ _ none => absurd none List.not_mem_nil

/-- The value of a text after another mapping is laid over the one with the value. -/
def overlaidUnder (name : String) (above : Mapping) (value : Value) : Value :=
  ((above.get? (.text name)).map fun given => given.overlaid (some value)).getD value

/-- A mapping that is laid over another one changes the entry in front of that, if it has the same
text as a key, and its other entries are put behind. -/
theorem overlay_cons_text {front : Mapping} (distinct : above.Distinct) (value : Value)
    (new : ∀ entry ∈ above, front.Lacks entry.1) :
    Mapping.overlay ((.text name, value) :: front) above =
      (.text name, overlaidUnder name above value) :: (front ++ above.erase (.text name)) := by
  unfold overlay
  induction above generalizing front value with
  | nil => simp [Value.overlaidEntries, overlaidUnder, erase, get?]
  | cons entry above ih =>
      obtain ⟨key, given⟩ := entry
      obtain ⟨first, rest⟩ := List.pairwise_cons.mp distinct
      have newLater : ∀ later ∈ above, front.Lacks later.1 := fun later member =>
        new later (List.mem_cons_of_mem _ member)
      rw [Value.overlaidEntries, Value.overlaidEntry]
      by_cases same : key = .text name
      · subst same
        -- no later key is the same text, so that nothing changes the entry again
        have once : Mapping.Lacks above (.text name) := distinct.lacks_text
        rw [get?_cons_text, put_cons_text, ih rest _ newLater, erase_cons_text]
        unfold overlaidUnder
        rw [get?_cons_text, get?_of_lacks once]
        rfl
      · have apart : (Value.text name).isSame key = false :=
          eq_false_of_ne_true (mt (Value.text_isSame_iff name key).mp same)
        have absent : front.Lacks key := new (key, given) List.mem_cons_self
        have nothing : Mapping.get? ((.text name, value) :: front) key = none := by
          rw [get?, if_neg (by simp [apart]), get?_of_lacks absent]
        have newer : ∀ later ∈ above, Mapping.Lacks (front ++ [(key, given)]) later.1 :=
          fun later member => lacks_append (newLater later member) (first later member)
        rw [nothing, Value.overlaid_none, put_cons_of_not_isSame apart, put_of_lacks absent,
          ih rest _ newer, erase_cons_of_ne same, List.append_assoc]
        unfold overlaidUnder
        rw [get?_cons_of_ne same]
        rfl

end Mapping

/-! ## Mappings in mappings -/

/-- A value in which no mapping has two keys that are the same, as far as it can be reached through
mappings alone. -/
inductive Value.Unrepeated : Value → Prop
  | mapping {entries : Mapping} (distinct : entries.Distinct)
      (values : ∀ entry ∈ entries, Unrepeated entry.2) : Unrepeated (.mapping entries)
  | other {value : Value} (noMapping : ∀ entries, value ≠ .mapping entries) : Unrepeated value

theorem Value.Unrepeated.distinct {entries : Mapping}
    (unrepeated : (Value.mapping entries).Unrepeated) : entries.Distinct := by
  cases unrepeated with
  | mapping distinct _ => exact distinct
  | other noMapping => exact absurd rfl (noMapping entries)

theorem Value.Unrepeated.value_of_get? {entries : Mapping} {key value : Value}
    (unrepeated : (Value.mapping entries).Unrepeated) (found : entries.get? key = some value) :
    value.Unrepeated := by
  cases unrepeated with
  | mapping _ values =>
      obtain ⟨entry, member, rfl⟩ := Mapping.mem_of_get? found
      exact values entry member
  | other noMapping => exact absurd rfl (noMapping entries)

theorem Value.unrepeated_null : Value.Unrepeated .null := .other fun _ => nofun

end Reattempt
