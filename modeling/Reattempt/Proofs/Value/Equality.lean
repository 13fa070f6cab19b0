import Mathlib.Tactic
import Reattempt.Value.Equality

/-!
# Equal keys

Values that can be keys are the same if one value stands for both (`isSame_iff`), whichever of them
are one object. So sameness of keys goes both ways and carries over from one pair to the next. Where
values that nothing tells apart are one object, something stands for every key, so that every key is
the same as itself (`isSame_self`). Else nothing may stand for not-a-number and for raised failures.
-/

set_option autoImplicit false

namespace Reattempt.Value

variable {a b c common : Value}

/-! ## What equal values have in common -/

def Numeric.normal? : Numeric → Option Value
  | .real (.infinite negative) => some (.float (.infinite negative))
  | number => number.worth.map .int

/-- What stands for a value that holds no others, apart from being an object. -/
def plainLeaf? (value : Value) : Option Value :=
  match value.numeric? with
  | some number => number.normal?
  | none =>
      match value with
      | .date _ moment => some (.date "" moment)
      | .list _ => none
      | .tuple _ => none
      | .mapping _ => none
      | .failure _ => none
      | value => some value

def normalLeaf? (objects : Objects) (value : Value) : Option Value :=
  if isOne objects value value then some value else plainLeaf? value

mutual
/-- What stands for a key and for all that are the same. -/
def normal? (objects : Objects) : Value → Option Value
  | .tuple items => (normalItems? objects items).map .tuple
  | value => normalLeaf? objects value
termination_by structural value => value

def normalItems? (objects : Objects) : List Value → Option (List Value)
  | [] => some []
  | item :: items =>
      (normal? objects item).bind fun first =>
        (normalItems? objects items).map (first :: ·)
termination_by structural items => items
end

/-! ## Numbers -/

theorem compare_eq_iff_int (x y : Int) : some (compare x y) = some Ordering.eq ↔
    ∃ common, some (Value.int x) = some common ∧ some (Value.int y) = some common := by
  simp only [Option.some.injEq, compare_eq_iff_eq, exists_eq_left', Value.int.injEq]
  exact eq_comm

/-- Numbers are equal if they are worth the same, or both infinite on the same side. -/
theorem Numeric.compare?_eq_iff (m n : Numeric) : m.compare? n = some .eq ↔
    ∃ common, m.normal? = some common ∧ n.normal? = some common := by
  -- a whole number stands on the side of the finite ones
  rcases m with x | (_ | minus | _)
  · rcases n with y | (_ | minus' | _)
    · exact compare_eq_iff_int _ _
    · exact iff_of_false nofun fun ⟨_, _, nothing⟩ => nomatch nothing
    · exact iff_of_false (by cases minus' <;> exact nofun) fun ⟨_, left, right⟩ => by
        cases left
        cases right
    · exact compare_eq_iff_int _ _
  · exact iff_of_false nofun fun ⟨_, nothing, _⟩ => nomatch nothing
  · rcases n with y | (_ | minus' | _)
    · exact iff_of_false (by cases minus <;> exact nofun) fun ⟨_, left, right⟩ => by
        cases left
        cases right
    · exact iff_of_false nofun fun ⟨_, _, nothing⟩ => nomatch nothing
    · cases minus <;> cases minus' <;> simp [compare?, normal?]
    · exact iff_of_false (by cases minus <;> exact nofun) fun ⟨_, left, right⟩ => by
        cases left
        cases right
  · rcases n with y | (_ | minus' | _)
    · exact compare_eq_iff_int _ _
    · exact iff_of_false nofun fun ⟨_, _, nothing⟩ => nomatch nothing
    · exact iff_of_false (by cases minus' <;> exact nofun) fun ⟨_, left, right⟩ => by
        cases left
        cases right
    · exact compare_eq_iff_int _ _

theorem Numeric.numeric?_normal {m : Numeric} (normal : m.normal? = some common) :
    common.numeric?.isSome = true := by
  unfold normal? at normal
  split at normal
  · cases normal
    rfl
  · obtain ⟨worth, _, rfl⟩ := Option.map_eq_some_iff.mp normal
    rfl

/-! ## Leaves -/

section Leaves

variable {objects : Objects}

theorem eq_of_isOne (one : isOne objects a b = true) : a = b := by
  cases a with
  | float x =>
      cases b with
      | float y =>
          simp only [isOne, Bool.and_eq_true, beq_iff_eq] at one
          rw [one.2]
      | _ => cases one
  | failure x =>
      cases b with
      | failure y =>
          simp only [isOne, Bool.and_eq_true, beq_iff_eq] at one
          rw [one.2]
      | _ => cases one
  | _ => cases one

theorem plainLeaf?_of_numeric {m : Numeric} (number : a.numeric? = some m) :
    plainLeaf? a = m.normal? := by
  unfold plainLeaf?
  rw [number]

theorem numeric?_plainLeaf (plain : plainLeaf? a = some common) :
    common.numeric?.isSome = a.numeric?.isSome := by
  cases number : a.numeric? with
  | some m =>
      rw [plainLeaf?_of_numeric number] at plain
      exact Numeric.numeric?_normal plain
  | none =>
      unfold plainLeaf? at plain
      rw [number] at plain
      cases a <;> cases number <;> cases plain <;> rfl

/-- What is equal only as an object has nothing else that stands for it, -/
theorem plainLeaf?_of_isOne (one : isOne objects a a = true) : plainLeaf? a = none := by
  cases a with
  | float x =>
      simp only [isOne, Bool.and_eq_true] at one
      cases x <;> cases one.1.2
      rfl
  | failure x => rfl
  | _ => cases one

/-- and stands for nothing else. -/
theorem not_isOne_of_plainLeaf (plain : plainLeaf? a = some common) :
    isOne objects common common = false := by
  by_contra one
  rw [Bool.not_eq_false] at one
  cases number : a.numeric? with
  | some m =>
      rw [plainLeaf?_of_numeric number] at plain
      unfold Numeric.normal? at plain
      split at plain
      · cases plain
        simp [isOne, Binary64.isNaN] at one
      · obtain ⟨worth, _, rfl⟩ := Option.map_eq_some_iff.mp plain
        cases one
  | none =>
      unfold plainLeaf? at plain
      rw [number] at plain
      cases a <;> cases number <;> cases plain <;> cases one

theorem normalLeaf?_of_isOne (one : isOne objects a a = true) :
    normalLeaf? objects a = some a := if_pos one

theorem normalLeaf?_of_not_isOne (several : ¬ isOne objects a a = true) :
    normalLeaf? objects a = plainLeaf? a := if_neg several

theorem normalLeaf?_ne_tuple (items : List Value) :
    normalLeaf? objects a ≠ some (.tuple items) := by
  intro normal
  by_cases one : isOne objects a a = true
  · rw [normalLeaf?_of_isOne one] at normal
    cases normal
    cases one
  · rw [normalLeaf?_of_not_isOne one] at normal
    have alike := numeric?_plainLeaf normal
    have unnumbered : a.numeric? = none :=
      Option.isNone_iff_eq_none.mp (Option.isSome_eq_false_iff.mp alike.symm)
    cases a <;> cases unnumbered <;> cases normal

theorem equalLeaf_iff_of_unnumbered (several : isOne objects a b = false)
    (left : a.numeric? = none) (right : b.numeric? = none) :
    equalLeaf objects a b = true ↔
      ∃ common, plainLeaf? b = some common ∧ plainLeaf? a = some common := by
  cases a <;> cases left <;> cases b <;> cases right <;>
    simp [equalLeaf, plainLeaf?, numeric?, several]

theorem equalLeaf_of_mixed (apart : a.numeric?.isSome ≠ b.numeric?.isSome) :
    equalLeaf objects a b = false := by
  cases a <;> cases b <;> simp [numeric?] at apart <;> rfl

theorem equalLeaf_iff (several : isOne objects a b = false) : equalLeaf objects a b = true ↔
    ∃ common, plainLeaf? a = some common ∧ plainLeaf? b = some common := by
  by_cases alike : a.numeric?.isSome = b.numeric?.isSome
  · cases left : a.numeric? with
    | some m =>
        obtain ⟨n, right⟩ : ∃ n, b.numeric? = some n := by
          rw [left] at alike
          exact Option.isSome_iff_exists.mp alike.symm
        rw [plainLeaf?_of_numeric left, plainLeaf?_of_numeric right, ← Numeric.compare?_eq_iff]
        simp [equalLeaf, left, right]
    | none =>
        have right : b.numeric? = none := by
          rw [left] at alike
          exact Option.isNone_iff_eq_none.mp (Option.isSome_eq_false_iff.mp alike.symm)
        rw [equalLeaf_iff_of_unnumbered several left right]
        exact exists_congr fun _ => and_comm
  · rw [equalLeaf_of_mixed alike]
    refine iff_of_false nofun fun ⟨common, normal, normal'⟩ => alike ?_
    rw [← numeric?_plainLeaf normal, numeric?_plainLeaf normal']

theorem sameLeaf_iff : (isOne objects a b || equalLeaf objects a b) = true ↔
    ∃ common, normalLeaf? objects a = some common ∧ normalLeaf? objects b = some common := by
  by_cases one : isOne objects a b = true
  · have same := eq_of_isOne one
    subst same
    rw [one, normalLeaf?_of_isOne one]
    exact iff_of_true rfl ⟨a, rfl, rfl⟩
  rw [Bool.not_eq_true] at one
  rw [one, Bool.false_or, equalLeaf_iff one]
  by_cases left : isOne objects a a = true
  · rw [plainLeaf?_of_isOne left, normalLeaf?_of_isOne left]
    refine iff_of_false (fun ⟨_, nothing, _⟩ => nomatch nothing) fun ⟨common, same, right⟩ => ?_
    cases same
    by_cases other : isOne objects b b = true
    · rw [normalLeaf?_of_isOne other] at right
      cases right
      exact Bool.false_ne_true (one.symm.trans left)
    · rw [normalLeaf?_of_not_isOne other] at right
      exact Bool.false_ne_true ((not_isOne_of_plainLeaf right).symm.trans left)
  · rw [normalLeaf?_of_not_isOne left]
    by_cases right : isOne objects b b = true
    · rw [plainLeaf?_of_isOne right, normalLeaf?_of_isOne right]
      refine iff_of_false (fun ⟨_, _, nothing⟩ => nomatch nothing) fun ⟨common, plain, same⟩ => ?_
      cases same
      exact Bool.false_ne_true ((not_isOne_of_plainLeaf plain).symm.trans right)
    · rw [normalLeaf?_of_not_isOne right]

end Leaves

/-! ## Keys -/

section Keys

variable [objects : Objects]

theorem normal?_eq_leaf (single : ∀ items, a ≠ .tuple items) :
    normal? objects a = normalLeaf? objects a := by
  cases a with
  | tuple items => exact absurd rfl (single items)
  | _ => rfl

theorem equalBy_eq_leaf (hashable : a.isHashable = true) (single : ∀ items, a ≠ .tuple items) :
    equalBy objects a b = equalLeaf objects a b := by
  cases a with
  | tuple items => exact absurd rfl (single items)
  | list items => cases hashable
  | mapping entries => cases hashable
  | _ => rfl

theorem isSame_leaf_iff (hashable : a.isHashable = true) (single : ∀ items, a ≠ .tuple items) :
    a.isSame b = true ↔
      ∃ common, normal? objects a = some common ∧ normal? objects b = some common := by
  rw [isSame, equalBy_eq_leaf hashable single, normal?_eq_leaf single, sameLeaf_iff]
  cases b with
  | tuple others =>
      refine iff_of_false (fun ⟨_, _, nothing⟩ => by cases nothing) fun ⟨common, left, right⟩ => ?_
      obtain ⟨inside, _, rfl⟩ := Option.map_eq_some_iff.mp right
      exact normalLeaf?_ne_tuple inside left
  | _ => rfl

theorem isSame_tuple_iff (items : List Value)
    (inner : ∀ others, equalItems objects items others = true ↔ ∃ common,
      normalItems? objects items = some common ∧ normalItems? objects others = some common) :
    (tuple items).isSame b = true ↔
      ∃ common, normal? objects (tuple items) = some common ∧ normal? objects b = some common := by
  by_cases several : ∃ others, b = .tuple others
  · obtain ⟨others, rfl⟩ := several
    simp only [isSame, isOne, equalBy, Bool.false_or, normal?, Option.map_eq_some_iff, inner]
    constructor
    · rintro ⟨common, left, right⟩
      exact ⟨.tuple common, ⟨common, left, rfl⟩, common, right, rfl⟩
    · rintro ⟨_, ⟨common, left, rfl⟩, common', right, same⟩
      cases same
      exact ⟨common, left, right⟩
  · have leaf := normal?_eq_leaf fun others same => several ⟨others, same⟩
    have apart : (tuple items).isSame b = false := by
      cases b with
      | tuple others => exact absurd ⟨others, rfl⟩ several
      | _ => rfl
    rw [apart, leaf]
    refine iff_of_false nofun fun ⟨common, left, right⟩ => ?_
    obtain ⟨inside, _, rfl⟩ := Option.map_eq_some_iff.mp left
    exact normalLeaf?_ne_tuple inside right

theorem normalItems?_cons_ne_nil (item : Value) (items : List Value) :
    normalItems? objects (item :: items) ≠ some [] := by
  intro normal
  obtain ⟨first, _, rest⟩ := Option.bind_eq_some_iff.mp normal
  obtain ⟨_, _, nothing⟩ := Option.map_eq_some_iff.mp rest
  cases nothing

mutual
/-- A key is the same as another value if one value stands for both. -/
theorem isSame_iff (a : Value) (hashable : a.isHashable = true) (b : Value) :
    a.isSame b = true ↔
      ∃ common, normal? objects a = some common ∧ normal? objects b = some common := by
  cases a with
  | tuple items => exact isSame_tuple_iff items (equalItems_iff items hashable)
  | _ => exact isSame_leaf_iff hashable nofun
termination_by structural a

theorem equalItems_iff (items : List Value) (hashable : areHashable items = true)
    (others : List Value) : equalItems objects items others = true ↔ ∃ common,
      normalItems? objects items = some common ∧ normalItems? objects others = some common := by
  cases items with
  | nil =>
      cases others with
      | nil => exact iff_of_true rfl ⟨[], rfl, rfl⟩
      | cons other others =>
          refine iff_of_false nofun fun ⟨common, left, right⟩ => ?_
          cases left
          exact normalItems?_cons_ne_nil other others right
  | cons item items =>
      cases others with
      | nil =>
          refine iff_of_false nofun fun ⟨common, left, right⟩ => ?_
          cases right
          exact normalItems?_cons_ne_nil item items left
      | cons other others =>
          obtain ⟨first, rest⟩ := Bool.and_eq_true_iff.mp hashable
          have heads := isSame_iff item first other
          rw [isSame] at heads
          rw [equalItems, Bool.and_eq_true, heads, equalItems_iff items rest]
          simp only [normalItems?, Option.bind_eq_some_iff, Option.map_eq_some_iff]
          constructor
          · rintro ⟨⟨head, left, right⟩, tail, left', right'⟩
            exact ⟨head :: tail, ⟨head, left, tail, left', rfl⟩, head, right, tail, right', rfl⟩
          · rintro ⟨_, ⟨head, left, tail, left', rfl⟩, head', right, tail', right', same⟩
            cases same
            exact ⟨⟨head, left, right⟩, tail, left', right'⟩
termination_by structural items
end

theorem isSame_symm (hashable : a.isHashable = true) (hashable' : b.isHashable = true)
    (same : a.isSame b = true) : b.isSame a = true := by
  obtain ⟨common, left, right⟩ := (isSame_iff a hashable b).mp same
  exact (isSame_iff b hashable' a).mpr ⟨common, right, left⟩

/-- Two keys that are the same as a third value are the same. -/
theorem isSame_of_isSame (hashable : a.isHashable = true) (hashable' : b.isHashable = true)
    (left : a.isSame c = true) (right : b.isSame c = true) : a.isSame b = true := by
  obtain ⟨common, ofA, ofC⟩ := (isSame_iff a hashable c).mp left
  obtain ⟨common', ofB, ofC'⟩ := (isSame_iff b hashable' c).mp right
  cases ofC.symm.trans ofC'
  exact (isSame_iff a hashable b).mpr ⟨common, ofA, ofB⟩

theorem normal?_of_isSame (hashable : a.isHashable = true) (same : a.isSame b = true) :
    normal? objects a = normal? objects b := by
  obtain ⟨common, left, right⟩ := (isSame_iff a hashable b).mp same
  rw [left, right]

/-- Two keys that are the same are the same as the same values. -/
theorem isSame_congr_left (hashable : a.isHashable = true) (hashable' : b.isHashable = true)
    (same : a.isSame b = true) (wanted : Value) : a.isSame wanted = b.isSame wanted := by
  rw [Bool.eq_iff_iff, isSame_iff a hashable, isSame_iff b hashable',
    normal?_of_isSame hashable same]

theorem isSame_congr_right (hashable : a.isHashable = true) (hashable' : b.isHashable = true)
    (same : b.isSame c = true) : a.isSame b = a.isSame c := by
  rw [Bool.eq_iff_iff, isSame_iff a hashable, isSame_iff a hashable,
    normal?_of_isSame hashable' same]

end Keys

/-! ## Every key is the same as itself -/

theorem normalLeaf?_isSome (hashable : a.isHashable = true) (single : ∀ items, a ≠ .tuple items) :
    (normalLeaf? .alike a).isSome = true := by
  cases a with
  | list items => cases hashable
  | mapping entries => cases hashable
  | tuple items => exact absurd rfl (single items)
  | float x =>
      cases x with
      | nan object =>
          have one : isOne .alike (.float (.nan object)) (.float (.nan object)) = true :=
            Bool.and_eq_true_iff.mpr ⟨rfl, beq_self_eq_true _⟩
          rw [normalLeaf?_of_isOne one]
          rfl
      | infinite negative => rfl
      | finite negative mantissa shift canonical => rfl
  | failure x =>
      have one : isOne .alike (.failure x) (.failure x) = true :=
        Bool.and_eq_true_iff.mpr ⟨rfl, beq_self_eq_true x⟩
      rw [normalLeaf?_of_isOne one]
      rfl
  | _ => rfl

mutual
theorem normal?_isSome (a : Value) (hashable : a.isHashable = true) :
    (normal? .alike a).isSome = true := by
  cases a with
  | tuple items =>
      rw [normal?, Option.isSome_map]
      exact normalItems?_isSome items hashable
  | _ => exact normalLeaf?_isSome hashable nofun
termination_by structural a

theorem normalItems?_isSome (items : List Value) (hashable : areHashable items = true) :
    (normalItems? .alike items).isSome = true := by
  cases items with
  | nil => rfl
  | cons item items =>
      obtain ⟨first, rest⟩ := Bool.and_eq_true_iff.mp hashable
      obtain ⟨head, left⟩ := Option.isSome_iff_exists.mp (normal?_isSome item first)
      obtain ⟨tail, right⟩ := Option.isSome_iff_exists.mp (normalItems?_isSome items rest)
      rw [normalItems?, left, right]
      rfl
termination_by structural items
end

/-- Where values that nothing tells apart are one object, a key is the same as itself. -/
theorem isSame_self (hashable : a.isHashable = true) : @isSame .alike a a = true := by
  obtain ⟨common, normal⟩ := Option.isSome_iff_exists.mp (normal?_isSome a hashable)
  exact (@isSame_iff .alike a hashable a).mpr ⟨common, normal, normal⟩

end Reattempt.Value
