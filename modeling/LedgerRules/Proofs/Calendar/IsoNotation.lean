import LedgerRules.Calendar.Moment
import LedgerRules.Proofs.Calendar.DateText

/-!
Moments in ISO notation. Every field stands in its place with all its digits, and the offset as
hours and minutes that follow a sign.
-/

namespace LedgerRules

/-- The number in decimal digits, padded to the width. -/
structure IsDecimal (width number : Nat) (digits : List Char) : Prop where
  length : digits.length = width
  decimal : ∀ digit ∈ digits, digit.isDigit
  value : Nat.ofDigitChars 10 digits 0 = number

theorem isDecimal_padded {width number : Nat} (positive : 0 < width)
    (bound : number < 10 ^ width) : IsDecimal width number (Date.padded width number).toList :=
  ⟨Date.length_toList_padded positive bound, Date.isDigit_of_mem_padded width number,
    Date.ofDigitChars_padded width number⟩

namespace Moment

/-- An offset in minutes as it is written. No offset at all is left out, and zero is positive. -/
inductive IsOffsetText : Option Int → List Char → Prop
  | unknown : IsOffsetText none []
  | east {hours minutes : Nat} {left right : List Char} (below : minutes < 60)
      (whole : IsDecimal 2 hours left) (rest : IsDecimal 2 minutes right) :
      IsOffsetText (some (hours * 60 + minutes)) ('+' :: left ++ ':' :: right)
  | west {hours minutes : Nat} {left right : List Char} (below : minutes < 60)
      (away : 0 < hours * 60 + minutes) (whole : IsDecimal 2 hours left)
      (rest : IsDecimal 2 minutes right) :
      IsOffsetText (some (-(hours * 60 + minutes))) ('-' :: left ++ ':' :: right)

/-- The moment to the second, in ISO notation. -/
def IsIsoText (moment : Moment) (text : List Char) : Prop :=
  ∃ year month day hour minute second offset,
    text = year ++ '-' :: month ++ '-' :: day ++ 'T' :: hour ++ ':' :: minute ++ ':' :: second ++
      offset ∧
    (IsDecimal 4 moment.date.year year ∧ IsDecimal 2 moment.date.month month ∧
      IsDecimal 2 moment.date.day day) ∧
    (IsDecimal 2 moment.time.hour hour ∧ IsDecimal 2 moment.time.minute minute ∧
      IsDecimal 2 moment.time.second second) ∧
    IsOffsetText moment.offset offset

theorem isOffsetText_offsetText {offset : Int} (near : offset.natAbs < 24 * 60) :
    IsOffsetText (some offset) (offsetText offset).toList := by
  have hours : IsDecimal 2 (offset.natAbs / 60) (Date.padded 2 (offset.natAbs / 60)).toList :=
    isDecimal_padded (by decide) (by omega)
  have minutes : IsDecimal 2 (offset.natAbs % 60) (Date.padded 2 (offset.natAbs % 60)).toList :=
    isDecimal_padded (by decide) (by omega)
  have below : offset.natAbs % 60 < 60 := Nat.mod_lt _ (by decide)
  by_cases negative : offset < 0
  · have written := IsOffsetText.west below (by omega) hours minutes
    have same : -((offset.natAbs / 60 : Nat) * 60 + (offset.natAbs % 60 : Nat) : Int) = offset := by
      omega
    rw [same] at written
    simpa [offsetText, negative] using written
  · have written := IsOffsetText.east below hours minutes
    have same : ((offset.natAbs / 60 : Nat) * 60 + (offset.natAbs % 60 : Nat) : Int) = offset := by
      omega
    rw [same] at written
    simpa [offsetText, negative] using written

theorem isIsoText_isoText {moment : Moment} (valid : moment.time.IsValid)
    (undivided : moment.time.microsecond = 0)
    (near : ∀ minutes ∈ moment.offset, minutes.natAbs < 24 * 60) :
    moment.IsIsoText moment.isoText.toList := by
  obtain ⟨years, months, days⟩ := moment.date.exists_day
  obtain ⟨hours, minutes, seconds, -⟩ := valid
  have longest := Date.daysInMonth_le moment.date.year moment.date.month
  have offset : IsOffsetText moment.offset ((moment.offset.map offsetText).getD "").toList := by
    cases given : moment.offset with
    | none => exact .unknown
    | some shift => exact isOffsetText_offsetText (near shift given)
  refine ⟨_, _, _, _, _, _, _, ?_, ⟨isDecimal_padded (by decide) (by omega),
    isDecimal_padded (by decide) (by omega), isDecimal_padded (by decide) (by omega)⟩,
    ⟨isDecimal_padded (by decide) (by omega), isDecimal_padded (by decide) (by omega),
    isDecimal_padded (by decide) (by omega)⟩, offset⟩
  simp [isoText, textWith, Date.text, undivided]

end Moment

end LedgerRules
