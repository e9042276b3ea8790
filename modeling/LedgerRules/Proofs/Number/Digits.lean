import Mathlib.Data.List.Induction
import Mathlib.Tactic.Linarith
import LedgerRules.Number.Reader

/-!
Numbers that are read from digits are bounded by the number of the digits.
-/

namespace LedgerRules

namespace Text

theorem ofDigitValues_lt {base count : Nat} (positive : 0 < base) {values : List Nat}
    (few : values.length ≤ count) (small : ∀ value ∈ values, value < base) :
    ofDigitValues base values < base ^ count := by
  refine Nat.lt_of_lt_of_le ?_ (Nat.pow_le_pow_right positive few)
  clear few
  induction values using List.reverseRecOn with
  | nil => exact Nat.one_pos
  | append_singleton values value ih =>
      have before := ih fun other member => small other (List.mem_append_left _ member)
      have last : value < base := small value (by simp)
      have split : ofDigitValues base (values ++ [value]) =
          ofDigitValues base values * base + value := by
        simp [ofDigitValues]
      rw [split, List.length_append, List.length_singleton, Nat.pow_succ]
      nlinarith

theorem hexValue?_lt {character : Char} {value : Nat} (found : hexValue? character = some value) :
    value < 16 := by
  simp only [hexValue?, Bool.and_eq_true, decide_eq_true_eq] at found
  split at found
  · cases found
    omega
  · split at found
    · cases found
      omega
    · split at found
      · cases found
        omega
      · cases found

end Text

open Text

theorem takeDigits_lt (characters : List Char) :
    ∀ value ∈ (takeDigits characters).1, value < 10 := by
  induction characters with
  | nil => exact nofun
  | cons character rest ih =>
      rw [takeDigits]
      split
      · rename_i digit
        simp only [Char.isDigit, Bool.and_eq_true, decide_eq_true_eq] at digit
        have most : character.toNat ≤ 57 := UInt32.le_iff_toNat_le.mp digit.2
        exact List.forall_mem_cons.mpr ⟨by omega, ih⟩
      · exact nofun

/-- A number of no more digits than may be written can be written. -/
theorem isTooLong_of_digits {values : List Nat} (few : values.length ≤ mostDigits)
    (small : ∀ value ∈ values, value < 10) {value : Int}
    (size : value.natAbs = ofDigitValues 10 values) : isTooLong value = false := by
  rw [isTooLong, decide_eq_false_iff_not, Nat.not_le, size]
  generalize mostDigits = limit at few ⊢
  exact ofDigitValues_lt (Nat.succ_pos 9) few small

end LedgerRules
