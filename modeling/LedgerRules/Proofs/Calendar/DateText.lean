import Mathlib.Algebra.Group.Nat.Defs
import LedgerRules.Calendar.Timestamp

/-!
Dates survive being written: the text of a day is read as that day.
-/

namespace LedgerRules.Date

theorem takeNumber_digits (digits : List Char) (number : Nat) (rest : List Char)
    (decimal : ∀ character ∈ digits, character.isDigit) :
    takeNumber digits.length number (digits ++ rest) =
      some (Nat.ofDigitChars 10 digits number, rest) := by
  induction digits generalizing number with
  | nil => rfl
  | cons digit others ih =>
      have first : digit.isDigit := decimal digit List.mem_cons_self
      have later := ih (number * 10 + (digit.toNat - 48)) fun character member =>
        decimal character (List.mem_cons_of_mem _ member)
      simp only [List.length_cons, List.cons_append, takeNumber, first, if_true, later]
      rw [Nat.ofDigitChars_cons, Nat.mul_comm number 10]
      rfl

theorem toList_padded (width number : Nat) :
    (padded width number).toList =
      List.replicate (width - (Nat.toDigits 10 number).length) '0' ++ Nat.toDigits 10 number := by
  simp [padded]

theorem ofDigitChars_padded (width number : Nat) :
    Nat.ofDigitChars 10 (padded width number).toList 0 = number := by
  rw [toList_padded, Nat.ofDigitChars_append, Nat.ofDigitChars_replicate_zero, Nat.mul_zero,
    Nat.ofDigitChars_ten_toDigits]

theorem padded_injective (width : Nat) {left right : Nat}
    (same : padded width left = padded width right) : left = right := by
  rw [← ofDigitChars_padded width left, same, ofDigitChars_padded]

theorem length_toList_padded {width number : Nat} (positive : 0 < width)
    (bound : number < 10 ^ width) : (padded width number).toList.length = width := by
  have short := (Nat.length_toDigits_le_iff (by decide) positive).mpr bound
  rw [toList_padded, List.length_append, List.length_replicate]
  omega

theorem isDigit_of_mem_padded (width number : Nat) :
    ∀ character ∈ (padded width number).toList, character.isDigit := by
  intro character member
  rw [toList_padded] at member
  rcases List.mem_append.mp member with zero | digit
  · rw [(List.mem_replicate.mp zero).2]
    decide
  · exact Nat.isDigit_of_mem_toDigits (by decide) (by decide) digit

theorem takeNumber_padded {width number : Nat} (positive : 0 < width)
    (bound : number < 10 ^ width) (rest : List Char) :
    takeNumber width 0 ((padded width number).toList ++ rest) = some (number, rest) := by
  have read := takeNumber_digits _ 0 rest (isDigit_of_mem_padded width number)
  rw [length_toList_padded positive bound] at read
  rw [read, ofDigitChars_padded]

theorem daysInMonth_le (year month : Nat) : daysInMonth year month ≤ 31 := by
  simp only [daysInMonth]
  repeat' split
  all_goals omega

theorem ofParts?_eq_some {year month day : Nat} {date : Date} :
    ofParts? year month day = some date ↔
      date.year = year ∧ date.month = month ∧ date.day = day := by
  constructor
  · intro found
    rw [ofParts?] at found
    split at found
    · obtain rfl := Option.some.inj found
      exact ⟨rfl, rfl, rfl⟩
    · cases found
  · intro same
    obtain ⟨rfl, rfl, rfl⟩ := same
    rw [ofParts?, dif_pos date.exists_day]

theorem takeDay_text (date : Date) :
    takeDay date.text.toList = some (date.year, date.month, date.day, []) := by
  obtain ⟨years, months, days⟩ := date.exists_day
  have longest := daysInMonth_le date.year date.month
  have year : date.year < 10 ^ 4 := by omega
  have month : date.month < 10 ^ 2 := by omega
  have day : date.day < 10 ^ 2 := by omega
  have characters : date.text.toList = (padded 4 date.year).toList ++
      ('-' :: ((padded 2 date.month).toList ++ ('-' :: ((padded 2 date.day).toList ++ [])))) := by
    simp [text]
  rw [characters]
  simp only [takeDay, takeNumber_padded (by decide) year, takeNumber_padded (by decide) month,
    takeNumber_padded (by decide) day, takeHyphen, if_true, Option.bind_eq_bind, Option.bind_some]
  exact if_pos ⟨months.1, months.2, days.1, days.2⟩

theorem ofText_text (date : Date) : ofText date.text = .ok date := by
  have existing : ofParts? date.year date.month date.day = some date := by
    rw [ofParts?, dif_pos date.exists_day]
  have read : readCalendarDay date.text.toList = some (.ok date) := by
    simp only [readCalendarDay, takeDay_text, Option.bind_eq_bind, Option.bind_some, existing]
  simp only [ofText, read, Option.orElse_some, Option.getD_some]

end LedgerRules.Date
