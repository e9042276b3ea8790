import LedgerRules.Number.Double
import LedgerRules.Text.Blank
import LedgerRules.Text.Digit
import LedgerRules.Text.Case

/-!
Numbers read from text: decimal fractions with an exponent, and whole numbers. Both are read from
characters; blanks, scripts and digit separators are treated by the callers' choice of reader.
-/

namespace LedgerRules

open Text

def takeDigits : List Char → List Nat × List Char
  | [] => ([], [])
  | character :: rest =>
      if character.isDigit then
        let (values, remaining) := takeDigits rest
        ((character.toNat - 48) :: values, remaining)
      else ([], character :: rest)

def takeSign : List Char → Bool × List Char
  | '-' :: rest => (true, rest)
  | '+' :: rest => (false, rest)
  | characters => (false, characters)

def lowerAscii (characters : List Char) : List Char :=
  characters.map fun character => Char.ofNat (asciiLowerCode character.toNat)

namespace Double

/-- The number nearest to `digits * 10 ^ exponent`. An exponent that leads outside the finite
range, whatever the rounding, is answered without computing the power. -/
def ofDecimal (negative : Bool) (digits : Nat) (exponent : Int) : Double :=
  let reach := (digits.log2 : Int) * 30103 / 100000 + exponent
  if digits = 0 ∨ reach < -400 then zero negative
  else if 400 < reach then .infinite negative
  else ofQuotient negative (digits * Nat.pow 10 exponent.toNat) (Nat.pow 10 (-exponent).toNat)

def readExponent : List Char → Option Int
  | [] => some 0
  | mark :: rest =>
      if mark == 'e' || mark == 'E' then
        let (negative, rest) := takeSign rest
        match takeDigits rest with
        | ([], _) => none
        | (values, []) =>
            let size : Int := ofDigitValues 10 values
            some (if negative then -size else size)
        | _ => none
      else none

def readUnsigned (negative : Bool) (characters : List Char) : Option Double :=
  let (whole, rest) := takeDigits characters
  let (fraction, rest) : List Nat × List Char :=
    match rest with
    | '.' :: afterPoint => takeDigits afterPoint
    | _ => ([], rest)
  if whole.isEmpty && fraction.isEmpty then none
  else
    (readExponent rest).map fun exponent =>
      ofDecimal negative (ofDigitValues 10 (whole ++ fraction)) (exponent - fraction.length)

def readCharacters (characters : List Char) : Option Double :=
  let (negative, rest) := takeSign characters
  let word := String.ofList (lowerAscii rest)
  if word == "inf" || word == "infinity" then some (.infinite negative)
  else if word == "nan" then some .notANumber
  else readUnsigned negative rest

end Double

def dropSeparators : (afterDigit : Bool) → List Char → Option (List Char)
  | _, [] => some []
  | afterDigit, '_' :: rest =>
      match rest with
      | next :: _ => if afterDigit && next.isDigit then dropSeparators false rest else none
      | [] => none
  | _, character :: rest => (dropSeparators character.isDigit rest).map (character :: ·)

/-- Blanks around the number are ignored, digits of all scripts count, and low lines may stand
between digits. -/
def Double.read? (text : String) : Option Double :=
  (dropSeparators false (asciiDigits (trimBlanks text.toList))).bind Double.readCharacters

/-- Whole numbers with more decimal digits are neither read nor written. -/
def mostDigits : Nat := 4300

def isTooLong (value : Int) : Bool := Nat.pow 10 mostDigits ≤ value.natAbs

/-- What is said of a number that has more digits than are written. -/
def tooLongToWrite : String :=
  "Exceeds the limit (4300 digits) for integer string conversion; use " ++
    "sys.set_int_max_str_digits() to increase the limit"

/-- What is said of a numeral that has more digits than are read. -/
def tooLongToRead (digits : Nat) : String :=
  "Exceeds the limit (4300 digits) for integer string conversion: value has " ++
    toString digits ++ " digits; use sys.set_int_max_str_digits() to increase the limit"

def readInteger? (text : String) : Option Int := do
  let characters ← dropSeparators false (asciiDigits (trimBlanks text.toList))
  let (negative, rest) := takeSign characters
  match takeDigits rest with
  | ([], _) => none
  | (values, []) =>
      if mostDigits < values.length then none
      else
        let size : Int := ofDigitValues 10 values
        some (if negative then -size else size)
  | _ => none

def baseMark (base : Nat) : Char := if base = 2 then 'b' else if base = 8 then 'o' else 'x'

def readIntegerInBase? (base : Nat) (text : String) : Option Int :=
  let (negative, rest) := takeSign (asciiDigits (trimBlanks text.toList))
  let digits :=
    match rest with
    | '0' :: mark :: digits => if lowerAscii [mark] == [baseMark base] then digits else rest
    | _ => rest
  let values := digits.filterMap hexValue?
  if digits.isEmpty || values.length != digits.length || values.any fun value => base ≤ value then
    none
  else
    let size : Int := ofDigitValues base values
    some (if negative then -size else size)

end LedgerRules
