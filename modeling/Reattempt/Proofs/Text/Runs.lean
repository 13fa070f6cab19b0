import Mathlib.Data.List.TakeWhile
import Mathlib.Tactic
import Reattempt.Text.Blank
import Reattempt.Text.Digit

/-!
# Runs of characters

A digit of any script is no blank. A text that begins with a run of characters of a class is split
behind it, and trimming takes the runs at both ends away.
-/

set_option autoImplicit false

namespace Reattempt

namespace Text

/-! ## Digits and blanks -/

/-- All digits of all scripts are no blanks. -/
theorem not_isBlank_digits :
    ∀ start ∈ digitZeros.toList, ∀ value < 10, isBlank (Char.ofNat (start + value)) = false := by
  decide +kernel

theorem exists_of_isDigit {c : Char} (digit : isDigit c = true) :
    ∃ start ∈ digitZeros.toList, ∃ value < 10, c = Char.ofNat (start + value) ∧
      digit? c = some value := by
  unfold isDigit at digit
  obtain ⟨value, found⟩ := Option.isSome_iff_exists.mp digit
  obtain ⟨start, first, rfl⟩ := Option.map_eq_some_iff.mp found
  have within := Array.find?_some first
  simp only [Bool.and_eq_true, decide_eq_true_eq] at within
  have spelled : start + (c.toNat - start) = c.toNat := by omega
  refine ⟨start, Array.mem_toList_iff.mpr (Array.mem_of_find?_eq_some first), c.toNat - start,
    by omega, ?_, found⟩
  rw [spelled, Char.ofNat_toNat]

theorem not_isBlank_of_isDigit {c : Char} (digit : isDigit c = true) : isBlank c = false := by
  obtain ⟨start, listed, value, small, rfl, -⟩ := exists_of_isDigit digit
  exact not_isBlank_digits start listed value small

theorem not_isDigit_of_isBlank {c : Char} (blank : isBlank c = true) : isDigit c = false := by
  by_contra digit
  rw [not_isBlank_of_isDigit (eq_true_of_ne_false digit)] at blank
  cases blank

theorem not_isDigit_point : isDigit '.' = false := by decide +kernel

/-! ## Runs of characters of a class -/

section Runs

variable {class? : Char → Bool} {before core after : List Char}

theorem trimBy_split (class? : Char → Bool) (text : List Char) :
    ∃ before after, (∀ c ∈ before, class? c = true) ∧ (∀ c ∈ after, class? c = true) ∧
      text = before ++ trimBy class? text ++ after := by
  have mirrored : (text.dropWhile class?).reverse =
      (text.dropWhile class?).reverse.takeWhile class? ++
        (text.dropWhile class?).reverse.dropWhile class? := List.takeWhile_append_dropWhile.symm
  refine ⟨text.takeWhile class?, ((text.dropWhile class?).reverse.takeWhile class?).reverse,
    fun c => List.mem_takeWhile_imp, ?_, ?_⟩
  · intro c member
    exact List.mem_takeWhile_imp (List.mem_reverse.mp member)
  · have straight := congrArg List.reverse mirrored
    rw [List.reverse_reverse, List.reverse_append] at straight
    rw [trimBy, List.append_assoc, ← straight, List.takeWhile_append_dropWhile]

theorem dropWhile_before (inside : ∀ c ∈ before, class? c = true)
    (outside : ∀ c ∈ core, class? c = false) : (before ++ core).dropWhile class? = core := by
  rw [List.dropWhile_append_of_pos inside]
  cases core with
  | nil => rfl
  | cons c rest => simp [outside c]

theorem trimBy_between (before after : List Char) (first : ∀ c ∈ before, class? c = true)
    (last : ∀ c ∈ after, class? c = true) (outside : ∀ c ∈ core, class? c = false) :
    trimBy class? (before ++ core ++ after) = core := by
  have mirroredLast : ∀ c ∈ after.reverse, class? c = true := by simpa using last
  have mirroredOutside : ∀ c ∈ core.reverse, class? c = false := by simpa using outside
  cases core with
  | nil =>
      have all : ∀ c ∈ before ++ after, class? c = true := by
        intro c member
        exact (List.mem_append.mp member).elim (first c) (last c)
      have nothing : (before ++ after).dropWhile class? = [] := by
        simpa using List.dropWhile_eq_nil_iff.mpr all
      simp [trimBy, nothing]
  | cons c rest =>
      have kept : (before ++ (c :: rest) ++ after).dropWhile class? = (c :: rest) ++ after := by
        rw [List.append_assoc, List.dropWhile_append_of_pos first]
        simp [outside c]
      rw [trimBy, kept, List.reverse_append, dropWhile_before mirroredLast mirroredOutside,
        List.reverse_reverse]

theorem span_before (core : List Char) (inside : ∀ c ∈ before, class? c = true)
    (stops : ∀ c ∈ core.head?, class? c = false) :
    (before ++ core).span class? = (before, core) := by
  rw [List.span_eq_takeWhile_dropWhile, List.takeWhile_append_of_pos inside,
    List.dropWhile_append_of_pos inside]
  cases core with
  | nil => simp
  | cons c rest => simp [stops c rfl]

end Runs

end Text

end Reattempt
