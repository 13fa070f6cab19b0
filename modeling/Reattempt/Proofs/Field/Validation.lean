import Mathlib.Tactic
import Reattempt.Field.Validation

/-!
# What validations give

Two ways to speak of a validation. `Yields` says what it gives on known arguments: its value and the
problems that it notes. `Ensures` says what holds of whatever it gives without a problem. Both pass
from the parts of a validation to the whole.
-/

set_option autoImplicit false

namespace Reattempt

theorem bind_eq_ok_iff {ε α β : Type} (first : Except ε α) (next : α → Except ε β) (last : β) :
    (first >>= next) = .ok last ↔ ∃ middle, first = .ok middle ∧ next middle = .ok last := by
  cases first with
  | error error => simp [bind, Except.bind]
  | ok middle => simp [bind, Except.bind]

theorem map_eq_ok_iff {ε α β : Type} (first : Except ε α) (f : α → β) (last : β) :
    first.map f = .ok last ↔ ∃ middle, first = .ok middle ∧ f middle = last := by
  cases first with
  | error error => simp [Except.map]
  | ok middle => simp [Except.map]

namespace Validation

variable {α β : Type}

/-- The validation gives the value and notes the problems, whatever was noted before. -/
def Yields (part : Validation α) (value : α) (problems : List Problem) : Prop :=
  ∀ noted, part noted = .ok (value, noted ++ problems)

theorem yields_pure (value : α) : Yields (pure value) value [] := by
  intro noted
  change Except.ok (value, noted) = _
  rw [List.append_nil]

theorem yields_bind {first : Validation α} {next : α → Validation β} {middle : α} {last : β}
    {early late : List Problem} (head : Yields first middle early)
    (tail : Yields (next middle) last late) :
    Yields (first >>= next) last (early ++ late) := by
  intro noted
  have headRun : first noted = .ok (middle, noted ++ early) := head noted
  have tailRun := tail (noted ++ early)
  simp only [bind, StateT.bind, headRun, Except.bind]
  rw [tailRun, List.append_assoc]

theorem yields_note (problems : List Problem) : Yields (note problems) () problems := by
  intro noted
  rfl

theorem yields_settle_ok (place : Place) (standIn value : α) :
    Yields (settle place standIn (.ok value)) value [] :=
  yields_pure value

theorem yields_settle_fault (place : Place) (standIn : α) (fault : Fault) :
    Yields (settle place standIn (.error (.fault fault))) standIn [⟨[place], fault⟩] := by
  intro noted
  rfl

theorem yields_inside {part : Validation α} {value : α} {problems : List Problem}
    (place : Place) (inner : Yields part value problems) :
    Yields (inside place part) value (problems.map (Problem.within place)) := by
  intro noted
  simp only [inside, inner [], List.nil_append, Except.map]

theorem finish_of_yields {part : Validation α} {value : α} {problems : List Problem}
    (run : Yields part value problems) :
    finish part = .ok (if problems.isEmpty then .ok value else .error problems) := by
  simp only [finish, run [], List.nil_append, Except.map]

/-! ## What holds without problems -/

/-- A validation that ends without problems started without any, and its value has the property. -/
def Ensures (part : Validation α) (property : α → Prop) : Prop :=
  ∀ noted value, part noted = .ok (value, []) → noted = [] ∧ property value

theorem ensures_pure {property : α → Prop} {value : α} (holds : property value) :
    Ensures (pure value) property := by
  intro noted result run
  cases run
  exact ⟨rfl, holds⟩

/-- What the first part ensures can be used for the rest, but only the rest as a whole tells that
the first part was without problems. -/
theorem ensures_bind {first : Validation α} {next : α → Validation β} {early : α → Prop}
    {late : β → Prop} (head : Ensures first early)
    (tail : ∀ middle, Ensures (next middle) fun value => early middle → late value) :
    Ensures (first >>= next) late := by
  intro noted value run
  simp only [bind, StateT.bind] at run
  cases answer : first noted with
  | error error =>
      rw [answer] at run
      cases run
  | ok answered =>
      obtain ⟨middle, between⟩ := answered
      rw [answer] at run
      obtain ⟨clean, holds⟩ := tail middle between value run
      subst clean
      obtain ⟨started, ensured⟩ := head noted middle answer
      exact ⟨started, holds ensured⟩

theorem ensures_weaken {part : Validation α} {strong weak : α → Prop}
    (ensured : Ensures part strong) (enough : ∀ value, strong value → weak value) :
    Ensures part weak := by
  intro noted value run
  obtain ⟨started, holds⟩ := ensured noted value run
  exact ⟨started, enough value holds⟩

/-- What a part gives without a problem is what it gives at the start. -/
theorem ensures_run {part : Validation α} {property : α → Prop} (ensured : Ensures part property) :
    Ensures part fun value => part [] = .ok (value, []) := by
  intro noted value run
  obtain ⟨rfl, _⟩ := ensured noted value run
  exact ⟨rfl, run⟩

theorem ensures_note (problems : List Problem) : Ensures (note problems) fun _ => True := by
  intro noted value run
  have appended : noted ++ problems = [] := congrArg Prod.snd (Except.ok.inj run)
  exact ⟨(List.append_eq_nil_iff.mp appended).1, trivial⟩

theorem ensures_renounce (problem : Problem) (rest : List Problem) :
    Ensures (renounce (problem :: rest)) fun _ => True := by
  intro noted value run
  have kept : problem :: rest = [] := congrArg Prod.snd (Except.ok.inj run)
  cases kept

theorem ensures_settle {property : α → Prop} (place : Place) (standIn : α)
    (reading : Except Field.Rejection α)
    (holds : ∀ value, reading = .ok value → property value) :
    Ensures (settle place standIn reading) property := by
  intro noted value run
  cases reading with
  | ok taken =>
      cases run
      exact ⟨rfl, holds value rfl⟩
  | error rejection =>
      cases rejection with
      | fault fault =>
          have noisy : noted ++ [⟨[place], fault⟩] = [] := congrArg Prod.snd (Except.ok.inj run)
          simp at noisy
      | range error => cases run

theorem ensures_settle_any (place : Place) (standIn : α)
    (reading : Except Field.Rejection α) :
    Ensures (settle place standIn reading) fun _ => True :=
  ensures_settle place standIn reading (fun _ _ => trivial)

theorem ensures_inside {part : Validation α} {property : α → Prop} (place : Place)
    (inner : Ensures part property) : Ensures (inside place part) property := by
  intro noted value run
  obtain ⟨⟨taken, problems⟩, answer, result⟩ := (map_eq_ok_iff _ _ _).mp run
  simp only [Prod.mk.injEq, List.append_eq_nil_iff, List.map_eq_nil_iff] at result
  obtain ⟨rfl, rfl, rfl⟩ := result
  exact ⟨rfl, (inner [] taken answer).2⟩

theorem ensures_thenCheck {part : Validation α} {property : α → Prop}
    {check : α → List Problem} (inner : Ensures part property) :
    Ensures (thenCheck part check) fun value => property value ∧ check value = [] := by
  intro noted value run
  obtain ⟨⟨taken, problems⟩, answer, result⟩ := (map_eq_ok_iff _ _ _).mp run
  cases problems with
  | nil =>
      simp only [Prod.mk.injEq, List.isEmpty_nil, if_true, List.append_eq_nil_iff] at result
      obtain ⟨rfl, rfl, passed⟩ := result
      exact ⟨rfl, (inner [] taken answer).2, passed⟩
  | cons problem rest => simp at result

theorem ensures_finish {part : Validation α} {property : α → Prop} {value : α}
    (ensured : Ensures part property) (finished : finish part = .ok (.ok value)) :
    property value := by
  obtain ⟨⟨taken, problems⟩, answer, result⟩ := (map_eq_ok_iff _ _ _).mp finished
  cases problems with
  | nil =>
      cases Except.ok.inj result
      exact (ensured [] value answer).2
  | cons problem rest => cases result

end Validation
end Reattempt
