import Mathlib.Tactic
import Reattempt.Decimal.Spoken
import Reattempt.PolicyFile.Reading
import Reattempt.Proofs.Duration.Overflow
import Reattempt.Proofs.Field.Interruption
import Reattempt.Proofs.Text.Runs

/-!
# The short form of durations

A text is in the short form if it consists of an amount and a unit, with blanks around both. It is
read in one way at most, and the duration it stands for is the number of its amount times the
seconds of its unit. All other values stay what they are (`ofValue_iff`).
-/

set_option autoImplicit false

namespace Reattempt

namespace Duration

open Text

/-! ## What is in the short form -/

def AreDigits (text : List Char) : Prop := text ≠ [] ∧ ∀ c ∈ text, isDigit c = true

def AreBlank (text : List Char) : Prop := ∀ c ∈ text, isBlank c = true

def Amount.text (amount : Amount) : List Char :=
  amount.whole ++ (amount.places.map ('.' :: ·)).getD []

structure Amount.WellFormed (amount : Amount) : Prop where
  whole : AreDigits amount.whole
  places : ∀ places ∈ amount.places, AreDigits places

/-- The text is this amount of this unit, with blanks around both. -/
def Written (amount : Amount) (suffix : Suffix) (text : List Char) : Prop :=
  amount.WellFormed ∧ ∃ before between after, AreBlank before ∧ AreBlank between ∧
    AreBlank after ∧ text = before ++ amount.text ++ between ++ suffix.text.toList ++ after

/-! ## Reading an amount -/

variable {amount : Amount} {suffix : Suffix} {text rest : List Char}

theorem areDigits_takeWhile (some? : (text.takeWhile isDigit).isEmpty = false) :
    AreDigits (text.takeWhile isDigit) := by
  refine ⟨?_, fun c => List.mem_takeWhile_imp⟩
  intro nothing
  rw [nothing] at some?
  cases some?

theorem Amount.span?_eq_some (found : Amount.span? text = some (amount, rest)) :
    amount.WellFormed ∧ text = amount.text ++ rest := by
  have split : text = text.takeWhile isDigit ++ text.dropWhile isDigit :=
    List.takeWhile_append_dropWhile.symm
  simp only [Amount.span?, List.span_eq_takeWhile_dropWhile] at found
  cases whole : (text.takeWhile isDigit).isEmpty with
  | true => simp [whole] at found
  | false =>
      have digits := areDigits_takeWhile whole
      simp only [whole, Bool.false_eq_true, if_false] at found
      split at found
      · rename_i behind pointed
        cases places : (behind.takeWhile isDigit).isEmpty with
        | true =>
            simp only [places, if_true, Option.some.injEq, Prod.mk.injEq] at found
            obtain ⟨rfl, rfl⟩ := found
            refine ⟨⟨digits, by simp⟩, ?_⟩
            simp [Amount.text]
        | false =>
            simp only [places, Bool.false_eq_true, if_false, Option.some.injEq,
              Prod.mk.injEq] at found
            obtain ⟨rfl, rfl⟩ := found
            refine ⟨⟨digits, by simpa using areDigits_takeWhile places⟩, ?_⟩
            rw [pointed] at split
            simpa [Amount.text, List.takeWhile_append_dropWhile] using split
      · simp only [Option.some.injEq, Prod.mk.injEq] at found
        obtain ⟨rfl, rfl⟩ := found
        refine ⟨⟨digits, by simp⟩, ?_⟩
        simp [Amount.text]

theorem Amount.span?_text (wellFormed : amount.WellFormed)
    (stops : ∀ c ∈ rest.head?, isDigit c = false ∧ c ≠ '.') :
    Amount.span? (amount.text ++ rest) = some (amount, rest) := by
  obtain ⟨whole, places⟩ := amount
  have notEmpty {digits : List Char} (are : AreDigits digits) : digits.isEmpty = false :=
    List.isEmpty_eq_false_iff.mpr are.1
  cases places with
  | none =>
      have spanned := span_before _ wellFormed.whole.2 fun c first => (stops c first).1
      simp only [Amount.span?, Amount.text, Option.map_none, Option.getD_none, List.append_nil,
        spanned, notEmpty wellFormed.whole, Bool.false_eq_true, if_false]
      split
      · rename_i behind
        exact absurd rfl (stops '.' rfl).2
      · rfl
  | some places =>
      have digits := wellFormed.places places rfl
      have spanned := span_before ('.' :: (places ++ rest)) wellFormed.whole.2 (by
        simp [not_isDigit_point])
      have spannedPlaces := span_before _ digits.2 fun c first => (stops c first).1
      have shown : Amount.text ⟨whole, some places⟩ ++ rest = whole ++ '.' :: (places ++ rest) := by
        simp [Amount.text]
      rw [shown, Amount.span?, spanned]
      simp only [notEmpty wellFormed.whole, Bool.false_eq_true, if_false, spannedPlaces,
        notEmpty digits]

/-! ## Reading a text in the short form -/

theorem Suffix.ofText?_text (suffix : Suffix) :
    Suffix.ofText? suffix.text.toList = some suffix := by
  cases suffix <;> rfl

theorem Suffix.ofText?_eq_some (found : Suffix.ofText? text = some suffix) :
    text = suffix.text.toList := by
  unfold Suffix.ofText? at found
  split at found <;> cases found <;> rfl

theorem Suffix.text_apart (suffix : Suffix) :
    ∀ c ∈ suffix.text.toList, isBlank c = false ∧ isDigit c = false ∧ c ≠ '.' := by
  intro c member
  have letters : c = 'm' ∨ c = 's' ∨ c = 'h' := by
    cases suffix <;> simp [Suffix.text] at member <;> tauto
  rcases letters with rfl | rfl | rfl <;> decide +kernel

theorem written_of_suffixed? (found : suffixed? text = some (amount, suffix)) :
    Written amount suffix text := by
  unfold suffixed? at found
  split at found
  · cases found
  · rename_i shown rest spanned
    simp only [Option.map_eq_some_iff, Prod.mk.injEq] at found
    obtain ⟨unit, named, rfl, rfl⟩ := found
    obtain ⟨wellFormed, split⟩ := Amount.span?_eq_some spanned
    obtain ⟨between, after, blank, blankAfter, surrounded⟩ := trimBy_split isBlank rest
    rw [Suffix.ofText?_eq_some named] at surrounded
    refine ⟨wellFormed, text.takeWhile isBlank, between, after,
      fun c => List.mem_takeWhile_imp, blank, blankAfter, ?_⟩
    calc text = text.takeWhile isBlank ++ text.dropWhile isBlank :=
          List.takeWhile_append_dropWhile.symm
      _ = _ := by rw [split, surrounded]; simp only [List.append_assoc]

theorem suffixed?_of_written (written : Written amount suffix text) :
    suffixed? text = some (amount, suffix) := by
  obtain ⟨wellFormed, before, between, after, blankBefore, blankBetween, blankAfter, rfl⟩ := written
  have core := suffix.text_apart
  have trimmed : trimBy isBlank (between ++ suffix.text.toList ++ after) = suffix.text.toList :=
    trimBy_between _ _ blankBetween blankAfter fun c member => (core c member).1
  have blankApart {c : Char} (blank : isBlank c = true) : isDigit c = false ∧ c ≠ '.' := by
    refine ⟨not_isDigit_of_isBlank blank, ?_⟩
    rintro rfl
    revert blank
    decide
  -- whatever stands behind the amount cannot go on with it
  have stops : ∀ c ∈ (between ++ suffix.text.toList ++ after).head?,
      isDigit c = false ∧ c ≠ '.' := by
    intro c first
    have member := List.mem_of_mem_head? first
    simp only [List.mem_append] at member
    rcases member with (blank | letter) | blank
    · exact blankApart (blankBetween c blank)
    · exact (core c letter).2
    · exact blankApart (blankAfter c blank)
  have begins : (before ++ (amount.text ++ (between ++ suffix.text.toList ++ after))).dropWhile
      isBlank = amount.text ++ (between ++ suffix.text.toList ++ after) := by
    obtain ⟨first, others, whole⟩ := List.exists_cons_of_ne_nil wellFormed.whole.1
    have digit : isDigit first = true := wellFormed.whole.2 first (by simp [whole])
    rw [List.dropWhile_append_of_pos blankBefore]
    simp [Amount.text, whole, not_isBlank_of_isDigit digit]
  have grouped : before ++ amount.text ++ between ++ suffix.text.toList ++ after =
      before ++ (amount.text ++ (between ++ suffix.text.toList ++ after)) := by
    simp only [List.append_assoc]
  rw [suffixed?, grouped, begins, Amount.span?_text wellFormed stops]
  dsimp only
  rw [trimmed, Suffix.ofText?_text, Option.map_some]

/-- The texts in the short form are the ones that are recognised. -/
theorem suffixed?_eq_some_iff :
    suffixed? text = some (amount, suffix) ↔ Written amount suffix text :=
  ⟨written_of_suffixed?, suffixed?_of_written⟩

/-! ## The number of an amount -/

theorem plain_digits_of_isDigit :
    ∀ value < 10, (Char.ofNat ('0'.toNat + value)).isDigit = true ∧
      Char.ofNat ('0'.toNat + value) ∉ ['_', '-', '+'] ∧
      (Char.ofNat ('0'.toNat + value)).toLower ∉ ['i', 'n'] := by
  decide

theorem plainDigit_of_isDigit {c : Char} (digit : isDigit c = true) :
    (plainDigit c).isDigit = true ∧ plainDigit c ∉ ['_', '-', '+'] ∧
      (plainDigit c).toLower ∉ ['i', 'n'] := by
  obtain ⟨-, -, value, small, -, found⟩ := exists_of_isDigit digit
  rw [plainDigit, found]
  exact plain_digits_of_isDigit value small

theorem plainDigit_point : plainDigit '.' = '.' := by decide +kernel

theorem dropUnderscores?_of_none {class? : Char → Bool} (plain : ∀ c ∈ text, c ≠ '_') :
    ∀ before, Decimal.dropUnderscores? class? before text = some text := by
  induction text with
  | nil => exact fun before => rfl
  | cons c rest ih =>
      intro before
      have first := plain c List.mem_cons_self
      rw [Decimal.dropUnderscores?]
      · rw [ih (fun other member => plain other (List.mem_cons_of_mem c member)) c]
        rfl
      · exact fun same => first same

theorem unsigned?_digits {whole : List Char} {places : Option (List Char)} (some? : whole ≠ [])
    (first : ∀ c ∈ whole, c.isDigit = true)
    (second : ∀ digits ∈ places, ∀ c ∈ digits, c.isDigit = true) :
    Decimal.unsigned? false (whole ++ (places.map ('.' :: ·)).getD []) =
      some (Decimal.binary64Of false (Decimal.naturalOf (whole ++ places.getD []))
        (-((places.getD []).length : Int))) := by
  have notEmpty : whole.isEmpty = false := List.isEmpty_eq_false_iff.mpr some?
  cases places with
  | none =>
      have spanned : whole.span Char.isDigit = (whole, []) := by
        simpa only [List.append_nil] using span_before [] first (by simp)
      simp only [Decimal.unsigned?, Decimal.spanDigits, Option.map_none, Option.getD_none,
        List.append_nil, spanned, notEmpty, Bool.false_and, Bool.false_eq_true, if_false,
        Decimal.exponent?, Option.map_some, List.length_nil, Nat.cast_zero, sub_zero, neg_zero]
  | some digits =>
      have spanned := span_before ('.' :: digits) first (by simp)
      have spannedDigits : digits.span Char.isDigit = (digits, []) := by
        simpa only [List.append_nil] using span_before [] (second digits rfl) (by simp)
      simp only [Decimal.unsigned?, Decimal.spanDigits, Option.map_some, Option.getD_some,
        spanned, spannedDigits, notEmpty, Bool.false_and, Bool.false_eq_true, if_false,
        Decimal.exponent?, zero_sub]

theorem number?_digits {whole : List Char} {places : Option (List Char)} (some? : whole ≠ [])
    (unsigned : ∀ c ∈ whole, c ∉ ['_', '-', '+'] ∧ c.toLower ∉ ['i', 'n']) :
    Decimal.number? (whole ++ (places.map ('.' :: ·)).getD []) =
      Decimal.unsigned? false (whole ++ (places.map ('.' :: ·)).getD []) := by
  obtain ⟨first, others, rfl⟩ := List.exists_cons_of_ne_nil some?
  obtain ⟨noSign, noWord⟩ := unsigned first List.mem_cons_self
  simp only [List.mem_cons, List.not_mem_nil, or_false, not_or] at noSign noWord
  have signless (rest : List Char) : Decimal.spanSign (first :: rest) = (false, first :: rest) := by
    rw [Decimal.spanSign]
    · exact fun tail same => noSign.2.1 (List.cons.inj same).1
    · exact fun tail same => noSign.2.2 (List.cons.inj same).1
  have noWordOf (word : String)
      (starts : word.toList.head? = some 'i' ∨ word.toList.head? = some 'n') (rest : List Char) :
      String.ofList ((first :: rest).map Char.toLower) ≠ word := by
    rintro rfl
    rw [String.toList_ofList, List.map_cons, List.head?_cons, Option.some.injEq,
      Option.some.injEq] at starts
    exact starts.elim noWord.1 noWord.2
  rw [List.cons_append, Decimal.number?, signless]
  dsimp only
  rw [if_neg, if_neg]
  · exact noWordOf "nan" (by decide) _
  · rintro (same | same)
    · exact noWordOf "inf" (by decide) _ same
    · exact noWordOf "infinity" (by decide) _ same

theorem Amount.digit_or_point (wellFormed : amount.WellFormed) :
    ∀ c ∈ amount.text, isDigit c = true ∨ c = '.' := by
  intro c member
  rcases List.mem_append.mp member with whole | behind
  · exact Or.inl (wellFormed.whole.2 c whole)
  · cases places : amount.places with
    | none => simp [places] at behind
    | some digits =>
        rw [places, Option.map_some, Option.getD_some, List.mem_cons] at behind
        exact behind.symm.imp_left ((wellFormed.places digits places).2 c)

/-- The number of an amount is the one that its text reads as. -/
theorem Amount.spokenNumber?_text (wellFormed : amount.WellFormed) :
    Decimal.spokenNumber? amount.text = some amount.value := by
  have digits := Amount.digit_or_point wellFormed
  have noSpace : ∀ c ∈ amount.text, isSpace c = false := by
    intro c member
    rcases digits c member with digit | rfl
    · exact (Bool.or_eq_false_iff.mp (not_isBlank_of_isDigit digit)).1
    · decide
  have trimmed : trimBy isSpace amount.text = amount.text := by
    simpa using trimBy_between [] [] (by simp) (by simp) noSpace
  have noUnderscore : ∀ c ∈ amount.text.map plainDigit, c ≠ '_' := by
    intro c member
    obtain ⟨written, listed, rfl⟩ := List.mem_map.mp member
    rcases digits written listed with digit | rfl
    · intro same
      exact (plainDigit_of_isDigit digit).2.1 (by simp [same])
    · rw [plainDigit_point]
      decide
  have plain : amount.text.map plainDigit = amount.whole.map plainDigit ++
      ((amount.places.map (List.map plainDigit)).map ('.' :: ·)).getD [] := by
    unfold Amount.text
    cases amount.places <;> simp [plainDigit_point]
  have some? : amount.whole.map plainDigit ≠ [] := by simpa using wellFormed.whole.1
  have readDigit {text : List Char} (are : ∀ c ∈ text, isDigit c = true) :
      ∀ c ∈ text.map plainDigit, c.isDigit = true ∧ c ∉ ['_', '-', '+'] ∧
        c.toLower ∉ ['i', 'n'] := by
    intro c member
    obtain ⟨written, listed, rfl⟩ := List.mem_map.mp member
    exact plainDigit_of_isDigit (are written listed)
  have wholeRead := readDigit wellFormed.whole.2
  have placesRead : ∀ places ∈ amount.places.map (List.map plainDigit), ∀ c ∈ places,
      c.isDigit = true := by
    intro places given c member
    obtain ⟨written, stored, rfl⟩ := Option.mem_map.mp given
    exact (readDigit (wellFormed.places written stored).2 c member).1
  rw [Decimal.spokenNumber?, trimmed, dropUnderscores?_of_none noUnderscore, Option.bind_some,
    plain, number?_digits some? fun c member => (wholeRead c member).2,
    unsigned?_digits some? (fun c member => (wholeRead c member).1) placesRead]
  unfold Amount.value
  cases amount.places <;> simp

/-! ## Values in the short form -/

theorem ofValue_written {text : String} (written : Written amount suffix text.toList) :
    ofValue (.text text) = (ofSuffixed amount suffix).map Value.duration := by
  rw [ofValue, suffixed?_eq_some_iff.mpr written]

theorem ofValue_unwritten {value : Value}
    (unwritten : ¬ ∃ text amount suffix, value = .text text ∧
      Written amount suffix text.toList) : ofValue value = .ok value := by
  unfold ofValue
  split
  · rename_i text
    split
    · rename_i amount suffix found
      exact absurd ⟨text, amount, suffix, rfl, suffixed?_eq_some_iff.mp found⟩ unwritten
    · rfl
  · rfl

theorem ofValue_overflows {value : Value} {error : RangeError}
    (failed : ofValue value = .error error) :
    (Failure.ofRangeError error).kind = .overflowError := by
  by_cases written : ∃ text amount suffix, value = .text text ∧ Written amount suffix text.toList
  · obtain ⟨text, amount, suffix, rfl, written⟩ := written
    rw [ofValue_written written] at failed
    have beyond := (Validation.map_eq_error_iff _ _ _).mp failed
    exact ofSuffixed_overflows beyond
  · rw [ofValue_unwritten written] at failed
    cases failed

/-- A value stays what it is unless it is a text that consists of an amount and a unit. There is one
way to see it so, the result is the number of the amount times the seconds of the unit, and this
can only overflow. -/
theorem ofValue_iff (value : Value) (result : Except RangeError Value) :
    (ofValue value = result ↔
      (∃ text amount suffix number, value = .text text ∧ Written amount suffix text.toList ∧
        Decimal.spokenNumber? amount.text = some number ∧
        result = (ofSeconds (number * suffix.factor)).map Value.duration) ∨
      ((¬ ∃ text amount suffix, value = .text text ∧ Written amount suffix text.toList) ∧
        result = .ok value)) ∧
    (∀ text amount amount' suffix suffix', Written amount suffix text →
      Written amount' suffix' text → amount = amount' ∧ suffix = suffix') ∧
    ∀ error, ofValue value = .error error → (Failure.ofRangeError error).kind = .overflowError := by
  refine ⟨?_, ?_, fun error => ofValue_overflows⟩
  · by_cases written : ∃ text amount suffix, value = .text text ∧
      Written amount suffix text.toList
    · obtain ⟨text, amount, suffix, rfl, written⟩ := written
      rw [ofValue_written written]
      constructor
      · rintro rfl
        exact Or.inl ⟨text, amount, suffix, amount.value, rfl, written,
          amount.spokenNumber?_text written.1, rfl⟩
      · rintro (⟨other, amount', suffix', number, same, written', read, rfl⟩ | ⟨unwritten, -⟩)
        · cases same
          have found := suffixed?_eq_some_iff.mpr written
          rw [suffixed?_eq_some_iff.mpr written'] at found
          cases found
          rw [Amount.spokenNumber?_text written.1] at read
          cases read
          rfl
        · exact absurd ⟨text, amount, suffix, rfl, written⟩ unwritten
    · rw [ofValue_unwritten written]
      constructor
      · rintro rfl
        exact Or.inr ⟨written, rfl⟩
      · rintro (⟨text, amount, suffix, -, same, seen, -⟩ | ⟨-, rfl⟩)
        · exact absurd ⟨text, amount, suffix, same, seen⟩ written
        · rfl
  · intro text amount amount' suffix suffix' first second
    have found := suffixed?_eq_some_iff.mpr first
    rw [suffixed?_eq_some_iff.mpr second] at found
    cases found
    exact ⟨rfl, rfl⟩

end Duration
end Reattempt
