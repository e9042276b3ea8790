import LedgerRules.Number.Text
import LedgerRules.Proofs.Number.Numeral
import LedgerRules.Proofs.Number.Shortest

/-!
The text of a number tells the number. Wherever the point is put and whatever the power of ten
behind the mark, the text stands for the digits and the exponent it was laid out from.
-/

namespace LedgerRules.Double

def mantissa (characters : List Char) : ℚ :=
  let whole := characters.takeWhile (· != '.')
  let fraction := (characters.dropWhile (· != '.')).tail
  Nat.ofDigitChars 10 (whole ++ fraction) 0 / 10 ^ fraction.length

def powerOfTen : List Char → Int
  | '-' :: digits => -(Nat.ofDigitChars 10 digits 0 : Int)
  | '+' :: digits => Nat.ofDigitChars 10 digits 0
  | _ => 0

/-- The number that decimal text stands for. -/
def decimalValue (characters : List Char) : ℚ :=
  mantissa (characters.takeWhile (· != 'e')) *
    10 ^ powerOfTen (characters.dropWhile (· != 'e')).tail

def AllDigits (characters : List Char) : Prop := ∀ character ∈ characters, character.isDigit = true

theorem AllDigits.append {left right : List Char} (first : AllDigits left)
    (second : AllDigits right) : AllDigits (left ++ right) := by
  intro character member
  exact (List.mem_append.mp member).elim (first character) (second character)

theorem AllDigits.zeros (count : Nat) : AllDigits (List.replicate count '0') := by
  intro character member
  rw [List.eq_of_mem_replicate member]
  rfl

theorem AllDigits.without {characters : List Char} (digits : AllDigits characters) (mark : Char)
    (other : mark.isDigit = false) : ∀ character ∈ characters, (character != mark) = true := by
  intro character member
  rw [bne_iff_ne]
  rintro rfl
  rw [digits character member] at other
  cases other

theorem mantissa_of_digits {characters : List Char} (digits : AllDigits characters) :
    mantissa characters = Nat.ofDigitChars 10 characters 0 := by
  have plain := digits.without '.' rfl
  simp only [mantissa, List.takeWhile_eq_self_iff.mpr plain, List.dropWhile_eq_nil_iff.mpr plain]
  simp

theorem mantissa_of_point {whole : List Char} (digits : AllDigits whole) (fraction : List Char) :
    mantissa (whole ++ '.' :: fraction) =
      Nat.ofDigitChars 10 (whole ++ fraction) 0 / 10 ^ fraction.length := by
  have plain := digits.without '.' rfl
  simp [mantissa, List.takeWhile_append_of_pos plain, List.dropWhile_append_of_pos plain]

theorem decimalValue_of_plain {characters : List Char}
    (plain : ∀ character ∈ characters, (character != 'e') = true) :
    decimalValue characters = mantissa characters := by
  simp only [decimalValue, List.takeWhile_eq_self_iff.mpr plain,
    List.dropWhile_eq_nil_iff.mpr plain]
  simp [powerOfTen]

theorem decimalValue_of_mark {characters : List Char}
    (plain : ∀ character ∈ characters, (character != 'e') = true) (power : List Char) :
    decimalValue (characters ++ 'e' :: power) = mantissa characters * 10 ^ powerOfTen power := by
  simp [decimalValue, List.takeWhile_append_of_pos plain, List.dropWhile_append_of_pos plain]

/-! Digits. -/

theorem toList_toString (value : Nat) : (toString value).toList = Nat.toDigits 10 value := by
  rw [Nat.toString_eq_repr, Nat.toList_repr]

theorem allDigits_toDigits (value : Nat) : AllDigits (Nat.toDigits 10 value) :=
  fun _ member => Nat.isDigit_of_mem_toDigits (by decide) (by decide) member

theorem ofDigitChars_zeros_append (count : Nat) (digits : List Char) :
    Nat.ofDigitChars 10 (List.replicate count '0' ++ digits) 0 = Nat.ofDigitChars 10 digits 0 := by
  rw [Nat.ofDigitChars_append, Nat.ofDigitChars_replicate_zero, Nat.mul_zero]

theorem ofDigitChars_append_zeros (count : Nat) (digits : List Char) :
    Nat.ofDigitChars 10 (digits ++ List.replicate count '0') 0 =
      Nat.ofDigitChars 10 digits 0 * 10 ^ count := by
  rw [Nat.ofDigitChars_append, Nat.ofDigitChars_replicate_zero, Nat.mul_comm]

/-- Digits with a point among them stand for the digits, divided by a power of ten. -/
theorem decimalValue_of_point {whole fraction : List Char} (first : AllDigits whole)
    (second : AllDigits fraction) :
    decimalValue (whole ++ '.' :: fraction) =
      Nat.ofDigitChars 10 (whole ++ fraction) 0 * 10 ^ (-(fraction.length : Int)) := by
  have plain : ∀ character ∈ whole ++ '.' :: fraction, (character != 'e') = true := by
    intro character member
    rcases List.mem_append.mp member with before | behind
    · exact first.without _ rfl character before
    · rcases List.mem_cons.mp behind with rfl | after
      · rfl
      · exact second.without _ rfl character after
  rw [decimalValue_of_plain plain, mantissa_of_point first, zpow_neg, zpow_natCast, div_eq_mul_inv]

theorem decimalValue_positional {digits : String} (decimal : AllDigits digits.toList)
    (whole : Int) :
    decimalValue (positional digits whole).toList =
      Nat.ofDigitChars 10 digits.toList 0 * 10 ^ (whole - digits.length) := by
  have zeros (count : Nat) : (zeros count).toList = List.replicate count '0' := by
    simp [Double.zeros]
  by_cases small : whole ≤ 0
  · have written : (positional digits whole).toList =
        List.replicate 1 '0' ++ '.' :: (List.replicate (-whole).toNat '0' ++ digits.toList) := by
      simp [positional, small, zeros]
    rw [written, decimalValue_of_point (.zeros 1) ((AllDigits.zeros _).append decimal),
      ofDigitChars_zeros_append, ofDigitChars_zeros_append]
    congr 2
    rw [List.length_append, List.length_replicate, String.length_toList]
    omega
  · by_cases large : (digits.length : Int) ≤ whole
    · have written : (positional digits whole).toList =
          (digits.toList ++ List.replicate (whole.toNat - digits.length) '0') ++ '.' :: ['0'] := by
        simp [positional, small, large, zeros]
      have zero : AllDigits ['0'] := AllDigits.zeros 1
      have joined : digits.toList ++ List.replicate (whole.toNat - digits.length) '0' ++ ['0'] =
          digits.toList ++ List.replicate (whole.toNat - digits.length + 1) '0' := by
        rw [List.append_assoc, List.replicate_succ']
      rw [written, decimalValue_of_point (decimal.append (.zeros _)) zero, joined,
        ofDigitChars_append_zeros]
      push_cast
      rw [mul_assoc, ← zpow_natCast, ← zpow_add₀ (by norm_num)]
      congr 2
      rw [List.length_singleton]
      omega
    · have written : (positional digits whole).toList =
          digits.toList.take whole.toNat ++ '.' :: digits.toList.drop whole.toNat := by
        simp [positional, small, large]
      have before : AllDigits (digits.toList.take whole.toNat) :=
        fun character member => decimal character (List.mem_of_mem_take member)
      have after : AllDigits (digits.toList.drop whole.toNat) :=
        fun character member => decimal character (List.mem_of_mem_drop member)
      rw [written, decimalValue_of_point before after, List.take_append_drop]
      congr 2
      rw [List.length_drop, String.length_toList]
      omega

theorem powerOfTen_sized (negative : Bool) (size : Nat) :
    powerOfTen ((if negative then '-' else '+') ::
      (if (toString size).length < 2 then "0" ++ toString size else toString size).toList) =
        if negative then -(size : Int) else size := by
  have read : Nat.ofDigitChars 10
      (if (toString size).length < 2 then "0" ++ toString size else toString size).toList 0 =
        size := by
    split
    · rw [String.toList_append, toList_toString]
      exact (ofDigitChars_zeros_append 1 _).trans Nat.ofDigitChars_ten_toDigits
    · rw [toList_toString, Nat.ofDigitChars_ten_toDigits]
  generalize (if (toString size).length < 2 then "0" ++ toString size
    else toString size).toList = digits at read ⊢
  cases negative <;> simp [powerOfTen, read]

theorem mantissa_scientific {first : Char} {rest : List Char}
    (decimal : AllDigits (first :: rest)) :
    mantissa (first :: if rest.isEmpty then [] else '.' :: rest) =
      Nat.ofDigitChars 10 (first :: rest) 0 * 10 ^ (-(rest.length : Int)) := by
  have digit : AllDigits [first] := fun character member =>
    decimal character (List.mem_cons.mpr (.inl (List.mem_singleton.mp member)))
  cases rest with
  | nil =>
      rw [List.isEmpty_nil, if_pos rfl, mantissa_of_digits digit]
      simp
  | cons second others =>
      have read := mantissa_of_point digit (second :: others)
      rw [div_eq_mul_inv, ← zpow_natCast, ← zpow_neg] at read
      exact read

theorem toList_exponential {digits : String} {first : Char} {rest : List Char}
    (listed : digits.toList = first :: rest) (exponent : Int) :
    (exponential digits exponent).toList =
      (first :: if rest.isEmpty then [] else '.' :: rest) ++ 'e' ::
        ((if decide (exponent < 0) then '-' else '+') ::
          (if (toString exponent.natAbs).length < 2 then "0" ++ toString exponent.natAbs
            else toString exponent.natAbs).toList) := by
  have fraction : (if rest.isEmpty then "" else "." ++ String.ofList rest).toList =
      if rest.isEmpty then [] else '.' :: rest := by
    split <;> simp
  have sign : (if exponent < 0 then "-" else "+").toList =
      [if decide (exponent < 0) then '-' else '+'] := by
    by_cases negative : exponent < 0 <;> simp [negative]
  simp only [exponential, String.toList_append, listed, List.drop_one, List.tail_cons, fraction,
    sign]
  simp

theorem unmarked_scientific {first : Char} {rest : List Char}
    (decimal : AllDigits (first :: rest)) :
    ∀ character ∈ first :: (if rest.isEmpty then [] else '.' :: rest),
      (character != 'e') = true := by
  have digits := decimal.without 'e' rfl
  intro character member
  rcases List.mem_cons.mp member with rfl | later
  · exact digits _ List.mem_cons_self
  · split at later
    · cases later
    · rcases List.mem_cons.mp later with rfl | inside
      · rfl
      · exact digits character (List.mem_cons_of_mem _ inside)

theorem signed_natAbs (number : Int) :
    (if decide (number < 0) then -(number.natAbs : Int) else number.natAbs) = number := by
  by_cases negative : number < 0
  · simp only [negative, decide_true, if_true]
    omega
  · simp only [negative, decide_false, Bool.false_eq_true, if_false]
    omega

theorem decimalValue_exponential {digits : String} (decimal : AllDigits digits.toList)
    (filled : digits.toList ≠ []) (exponent : Int) :
    decimalValue (exponential digits exponent).toList =
      Nat.ofDigitChars 10 digits.toList 0 * 10 ^ (exponent + 1 - digits.length) := by
  obtain ⟨first, rest, listed⟩ := List.exists_cons_of_ne_nil filled
  have length : (digits.length : Int) = rest.length + 1 := by
    rw [← String.length_toList, listed, List.length_cons]
    rfl
  have shift : -(rest.length : Int) + exponent = exponent + 1 - digits.length := by omega
  rw [listed] at decimal
  rw [toList_exponential listed, decimalValue_of_mark (unmarked_scientific decimal),
    powerOfTen_sized, signed_natAbs, mantissa_scientific decimal, mul_assoc,
    ← zpow_add₀ (by norm_num), shift, listed]

theorem decimalValue_layout (decimal : DecimalDigits) :
    decimalValue (layout decimal).toList = decimal.value := by
  have digits : AllDigits (toString decimal.digits).toList := by
    rw [toList_toString]
    exact allDigits_toDigits _
  have read : Nat.ofDigitChars 10 (toString decimal.digits).toList 0 = decimal.digits := by
    rw [toList_toString, Nat.ofDigitChars_ten_toDigits]
  simp only [layout]
  split
  next zero =>
    have zeros := AllDigits.zeros 1
    rw [DecimalDigits.value, zero, Nat.cast_zero, zero_mul]
    have read := decimalValue_of_point zeros zeros
    rw [ofDigitChars_zeros_append, ← List.append_nil (List.replicate 1 '0'),
      ofDigitChars_zeros_append, Nat.ofDigitChars_nil, Nat.cast_zero, zero_mul] at read
    exact read
  · split
    · rw [decimalValue_positional digits, read, DecimalDigits.value]
      congr 2
      omega
    · rw [decimalValue_exponential digits (Text.IsNumeral.nat_ne_nil _), read, DecimalDigits.value]
      congr 2
      omega

def BeginsWithDigit (text : String) : Prop := ∃ first ∈ text.toList.head?, first.isDigit = true

namespace BeginsWithDigit

theorem append {text : String} (begins : BeginsWithDigit text) (rest : String) :
    BeginsWithDigit (text ++ rest) := by
  obtain ⟨first, head, digit⟩ := begins
  exact ⟨first, by rw [String.toList_append, List.head?_append, head]; rfl, digit⟩

theorem take {text : String} (begins : BeginsWithDigit text) {count : Nat} (positive : 0 < count) :
    BeginsWithDigit (String.ofList (text.toList.take count)) := by
  obtain ⟨first, head, digit⟩ := begins
  refine ⟨first, ?_, digit⟩
  rw [String.toList_ofList, List.head?_take, if_neg (by omega)]
  exact head

theorem of_nat (value : Nat) : BeginsWithDigit (toString value) := by
  obtain ⟨first, rest, listed⟩ := List.exists_cons_of_ne_nil (Text.IsNumeral.nat_ne_nil value)
  refine ⟨first, by rw [listed]; rfl, ?_⟩
  apply allDigits_toDigits value
  rw [← toList_toString, listed]
  exact List.mem_cons_self

theorem positional {digits : String} (begins : BeginsWithDigit digits) (whole : Int) :
    BeginsWithDigit (Double.positional digits whole) := by
  rw [Double.positional]
  split
  · have zero : BeginsWithDigit "0." := ⟨'0', rfl, rfl⟩
    exact (zero.append _).append _
  · split
    · exact (begins.append _).append _
    · exact ((begins.take (by omega)).append _).append _

theorem exponential {digits : String} (begins : BeginsWithDigit digits) (exponent : Int) :
    BeginsWithDigit (Double.exponential digits exponent) :=
  ((((begins.take (by decide)).append _).append _).append _).append _

theorem layout (decimal : DecimalDigits) : BeginsWithDigit (Double.layout decimal) := by
  have digits := of_nat decimal.digits
  simp only [Double.layout]
  split
  · exact ⟨'0', rfl, rfl⟩
  · split
    · exact digits.positional _
    · exact digits.exponential _

end BeginsWithDigit

theorem layout_marked (decimal : DecimalDigits) :
    '.' ∈ (layout decimal).toList ∨ 'e' ∈ (layout decimal).toList := by
  simp only [layout]
  split
  · exact .inl (by decide)
  · split
    · left
      simp only [positional]
      split
      · simp
      · split <;> simp
    · exact .inr (by simp [exponential])

/-! The text of a number tells the number. -/

theorem signed_layout_injective {negative other : Bool} {decimal decimalToo : DecimalDigits}
    (same : signed negative (layout decimal) = signed other (layout decimalToo)) :
    negative = other ∧ layout decimal = layout decimalToo := by
  have unsigned (decimal decimalToo : DecimalDigits) :
      "-" ++ layout decimal ≠ layout decimalToo := by
    intro equal
    obtain ⟨first, head, digit⟩ := BeginsWithDigit.layout decimalToo
    rw [← equal, String.toList_append] at head
    obtain rfl : '-' = first := Option.some.inj head
    cases digit
  cases negative <;> cases other
  · exact ⟨rfl, same⟩
  · exact absurd same.symm (unsigned _ _)
  · exact absurd same (unsigned _ _)
  · exact ⟨rfl, String.append_right_inj _ |>.mp same⟩

theorem finite_injective {words : Words} {negative other : Bool}
    {rank rankToo : Fin finiteMagnitudes}
    (same : textWith words (.finite negative rank) = textWith words (.finite other rankToo)) :
    negative = other ∧ rank = rankToo := by
  obtain ⟨signs, layouts⟩ := signed_layout_injective same
  refine ⟨signs, Fin.ext (shortest_value_injective ?_)⟩
  rw [← decimalValue_layout, layouts, decimalValue_layout]

theorem jsonText_injective : Function.Injective (textWith jsonWords) := by
  have word (negative : Bool) (rank : Fin finiteMagnitudes) {text : String}
      (letter : ¬Text.IsNumeral text) : textWith jsonWords (.finite negative rank) ≠ text := by
    rintro rfl
    exact letter (isNumeral_finite jsonWords negative rank)
  have infinity (negative : Bool) : ¬Text.IsNumeral (textWith jsonWords (.infinite negative)) := by
    cases negative <;> decide
  have notANumber : ¬Text.IsNumeral (textWith jsonWords .notANumber) := by decide
  intro value other same
  cases value with
  | finite negative rank =>
      cases other with
      | finite negativeToo rankToo =>
          obtain ⟨rfl, rfl⟩ := finite_injective same
          rfl
      | infinite negativeToo => exact absurd same (word negative rank (infinity negativeToo))
      | notANumber => exact absurd same (word negative rank notANumber)
  | infinite negative =>
      cases other with
      | finite negativeToo rankToo =>
          exact absurd same.symm (word negativeToo rankToo (infinity negative))
      | infinite negativeToo => revert same; cases negative <;> cases negativeToo <;> decide
      | notANumber => revert same; cases negative <;> decide
  | notANumber =>
      cases other with
      | finite negativeToo rankToo => exact absurd same.symm (word negativeToo rankToo notANumber)
      | infinite negativeToo => revert same; cases negativeToo <;> decide
      | notANumber => rfl

/-- A number of this kind is never written like a whole number. -/
theorem jsonText_ne_int (value : Double) (number : Int) :
    value.textWith jsonWords ≠ toString number := by
  have whole : ∀ character ∈ (toString number).toList,
      character.isDigit = true ∨ character = '-' := by
    intro character member
    cases number with
    | ofNat size =>
        left
        apply allDigits_toDigits size
        rwa [← toList_toString]
    | negSucc size =>
        have written : toString (Int.negSucc size) = "-" ++ toString (size + 1) := rfl
        rw [written, String.toList_append, toList_toString] at member
        rcases List.mem_append.mp member with sign | digit
        · exact .inr (List.mem_singleton.mp sign)
        · exact .inl (allDigits_toDigits _ _ digit)
  have marked : ∃ character ∈ (value.textWith jsonWords).toList,
      character.isDigit = false ∧ character ≠ '-' := by
    cases value with
    | finite negative rank =>
        have within (character : Char) (member : character ∈ (layout (shortest rank.val)).toList) :
            character ∈ (textWith jsonWords (.finite negative rank)).toList := by
          cases negative with
          | false => exact member
          | true =>
              rw [textWith, signed, if_pos rfl, String.toList_append]
              exact List.mem_append_right _ member
        rcases layout_marked (shortest rank.val) with point | mark
        · exact ⟨'.', within '.' point, rfl, by decide⟩
        · exact ⟨'e', within 'e' mark, rfl, by decide⟩
    | infinite negative => exact ⟨'I', by cases negative <;> decide, rfl, by decide⟩
    | notANumber => exact ⟨'N', by decide, rfl, by decide⟩
  intro same
  obtain ⟨character, member, other, unsigned⟩ := marked
  rw [same] at member
  rcases whole character member with digit | sign
  · rw [digit] at other
    cases other
  · exact unsigned sign

end LedgerRules.Double
