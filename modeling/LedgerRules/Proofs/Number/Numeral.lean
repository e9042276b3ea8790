import LedgerRules.Number.Text

/-!
The characters of written numbers. A finite number is written without any letter but the mark of an
exponent, so that it is never one of the words for what is no finite number.
-/

namespace LedgerRules

namespace Text

def isNumeralCharacter (character : Char) : Bool :=
  character.isDigit || character == '-' || character == '+' || character == '.' || character == 'e'

def IsNumeral (text : String) : Prop := ∀ character ∈ text.toList, isNumeralCharacter character

instance (text : String) : Decidable (IsNumeral text) :=
  List.decidableBAll _ text.toList

namespace IsNumeral

theorem append {left right : String} (first : IsNumeral left) (second : IsNumeral right) :
    IsNumeral (left ++ right) := by
  intro character member
  rw [String.toList_append, List.mem_append] at member
  exact member.elim (first character) (second character)

theorem of_part {text : String} (numeral : IsNumeral text) {part : List Char}
    (within : part ⊆ text.toList) : IsNumeral (String.ofList part) := by
  intro character member
  rw [String.toList_ofList] at member
  exact numeral character (within member)

theorem of_nat (value : Nat) : IsNumeral (toString value) := by
  intro character member
  rw [Nat.toString_eq_repr, Nat.toList_repr] at member
  simp [isNumeralCharacter, Nat.isDigit_of_mem_toDigits (by decide) (by decide) member]

theorem of_int (value : Int) : IsNumeral (toString value) := by
  cases value with
  | ofNat value => exact of_nat value
  | negSucc value => exact append (by decide : IsNumeral "-") (of_nat (value + 1))

theorem nat_ne_nil (value : Nat) : (toString value).toList ≠ [] := by
  rw [Nat.toString_eq_repr, Nat.toList_repr]
  exact Nat.toDigits_ne_nil

theorem int_ne_nil (value : Int) : (toString value).toList ≠ [] := by
  cases value with
  | ofNat value => exact nat_ne_nil value
  | negSucc value =>
      have written : toString (Int.negSucc value) = "-" ++ toString (value + 1) := rfl
      rw [written, String.toList_append]
      exact List.append_ne_nil_of_left_ne_nil (by decide) _

theorem of_zeros (count : Nat) : IsNumeral (Double.zeros count) := by
  intro character member
  rw [Double.zeros, String.toList_ofList] at member
  rw [List.eq_of_mem_replicate member]
  decide

end IsNumeral

end Text

open Text

namespace Double

theorem isNumeral_positional {digits : String} (numeral : IsNumeral digits) (whole : Int) :
    IsNumeral (positional digits whole) := by
  have point : IsNumeral "." := by decide
  simp only [positional]
  split
  · exact ((by decide : IsNumeral "0.").append (.of_zeros _)).append numeral
  · split
    · exact (numeral.append (.of_zeros _)).append (by decide)
    · exact ((numeral.of_part (List.take_subset _ _)).append point).append
        (numeral.of_part (List.drop_subset _ _))

theorem isNumeral_exponential {digits : String} (numeral : IsNumeral digits) (exponent : Int) :
    IsNumeral (exponential digits exponent) := by
  have fraction : IsNumeral (if (digits.toList.drop 1).isEmpty then "" else
      "." ++ String.ofList (digits.toList.drop 1)) := by
    split
    · decide
    · exact (by decide : IsNumeral ".").append (numeral.of_part (List.drop_subset _ _))
  have sign : IsNumeral (if exponent < 0 then "-" else "+") := by
    split <;> decide
  have size : IsNumeral (if (toString exponent.natAbs).length < 2 then
      "0" ++ toString exponent.natAbs else toString exponent.natAbs) := by
    split
    · exact (by decide : IsNumeral "0").append (.of_nat _)
    · exact .of_nat _
  have mantissa := (numeral.of_part (List.take_subset 1 _)).append fraction
  exact ((mantissa.append (by decide : IsNumeral "e")).append sign).append size

theorem isNumeral_layout (decimal : DecimalDigits) : IsNumeral (layout decimal) := by
  simp only [layout]
  split
  · decide
  · split
    · exact isNumeral_positional (.of_nat _) _
    · exact isNumeral_exponential (.of_nat _) _

theorem isNumeral_finite (words : Words) (negative : Bool) (rank) :
    IsNumeral (textWith words (.finite negative rank)) := by
  simp only [textWith, signed]
  split
  · exact (by decide : IsNumeral "-").append (isNumeral_layout _)
  · exact isNumeral_layout _

theorem positional_ne_nil (digits : String) (whole : Int) :
    (positional digits whole).toList ≠ [] := by
  simp only [positional]
  split
  · simp
  · split <;> simp

theorem layout_ne_nil (decimal : DecimalDigits) : (layout decimal).toList ≠ [] := by
  simp only [layout]
  split
  · decide
  · split
    · exact positional_ne_nil _ _
    · simp [exponential]

theorem jsonText_ne_nil (value : Double) : (value.textWith jsonWords).toList ≠ [] := by
  cases value with
  | finite negative rank =>
      simp only [textWith, signed]
      split
      · simp
      · exact layout_ne_nil _
  | infinite negative => cases negative <;> decide
  | notANumber => decide

end Double

end LedgerRules
