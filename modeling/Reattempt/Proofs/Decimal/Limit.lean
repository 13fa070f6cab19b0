import Mathlib.Tactic
import Reattempt.Decimal.Spoken

/-!
# Numbers that are short enough

A number that was read in base ten has no more digits than can be written again
(`isWritable_of_spoken`), and neither has any number below it.
-/

set_option autoImplicit false

namespace Reattempt.Decimal

theorem isWritable_iff (number : ℤ) :
    isWritable number = true ↔ number.natAbs < 10 ^ maxDigits := by
  unfold isWritable
  rw [decide_eq_true_iff, Nat.pow_eq]

/-- The least number that is too long. -/
@[irreducible] def tooLong : ℤ := (10 ^ maxDigits : ℕ)

theorem isWritable_tooLong : isWritable tooLong = false := by
  rw [Bool.eq_false_iff, ne_eq, isWritable_iff, tooLong, Int.natAbs_natCast]
  exact Nat.lt_irrefl _

theorem tooLong_nonneg : 0 ≤ tooLong := by
  rw [tooLong]
  exact Int.natCast_nonneg _

theorem isWritable_of_le {number greater : ℕ} (le : number ≤ greater)
    (writable : isWritable greater = true) : isWritable number = true := by
  rw [isWritable_iff, Int.natAbs_natCast] at *
  exact le.trans_lt writable

theorem isWritable_one : isWritable 1 = true := by
  rw [isWritable_iff]
  exact Nat.one_lt_pow (by decide) (by decide)

theorem digitIn?_lt {base digit : ℕ} {c : Char} (read : digitIn? base c = some digit) :
    digit < base := by
  unfold digitIn? at read
  exact of_decide_eq_true (Option.filter_eq_some_iff.mp read).2

variable {base : ℕ}

/-- Further digits multiply what was read by no more than their powers of the base. -/
theorem foldl_digits_lt (positive : 0 < base) (digits : List Char) : ∀ total : ℕ,
    digits.foldl (fun total c => total * base + (digitIn? base c).getD 0) total <
      (total + 1) * base ^ digits.length := by
  induction digits with
  | nil => intro total; simp
  | cons c digits ih =>
      intro total
      have digit : (digitIn? base c).getD 0 + 1 ≤ base := by
        cases read : digitIn? base c with
        | none => exact positive
        | some digit => exact digitIn?_lt read
      calc digits.foldl _ (total * base + (digitIn? base c).getD 0)
          < (total * base + (digitIn? base c).getD 0 + 1) * base ^ digits.length := ih _
        _ ≤ (total * base + base) * base ^ digits.length :=
            Nat.mul_le_mul_right _ (by omega)
        _ = (total + 1) * base ^ (digits.length + 1) := by ring

theorem isWritable_of_spoken {text : List Char} {number : ℤ}
    (spoken : spokenWhole? 10 text = some number) : isWritable number = true := by
  have read : spokenWhole 10 text = .ok number := by
    unfold spokenWhole? at spoken
    cases whole : spokenWhole 10 text with
    | error error =>
        rw [whole] at spoken
        cases spoken
    | ok found =>
        rw [whole] at spoken
        cases spoken
        rfl
  unfold spokenWhole at read
  dsimp only at read
  split at read
  · cases read
  · rename_i digits spelled
    split at read
    · cases read
    · rename_i few
      split at read
      · cases read
      · have total := foldl_digits_lt (by decide : 0 < 10) digits 0
        have most : 10 ^ digits.length ≤ 10 ^ maxDigits :=
          Nat.pow_le_pow_right (by decide) (by omega)
        rw [zero_add, one_mul] at total
        rw [isWritable_iff]
        cases read
        split
        · rw [Int.natAbs_neg, Int.natAbs_natCast]
          exact total.trans_le most
        · rw [Int.natAbs_natCast]
          exact total.trans_le most

end Reattempt.Decimal
