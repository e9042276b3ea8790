import LedgerRules.Number.Shortest

/-!
Decimal text of numbers: the shortest digits, or a fixed number of places.
-/

namespace LedgerRules.Double

structure Words where
  infinity : String
  notANumber : String

def plainWords : Words := ⟨"inf", "nan"⟩

def jsonWords : Words := ⟨"Infinity", "NaN"⟩

def signed (negative : Bool) (text : String) : String := if negative then "-" ++ text else text

def zeros (count : Nat) : String := String.ofList (List.replicate count '0')

def exponential (digits : String) (exponent : Int) : String :=
  let fraction := digits.toList.drop 1
  let mantissa := String.ofList (digits.toList.take 1) ++
    (if fraction.isEmpty then "" else "." ++ String.ofList fraction)
  let size := toString exponent.natAbs
  mantissa ++ "e" ++ (if exponent < 0 then "-" else "+") ++
    (if size.length < 2 then "0" ++ size else size)

def positional (digits : String) (whole : Int) : String :=
  let count := digits.length
  if whole ≤ 0 then "0." ++ zeros (-whole).toNat ++ digits
  else if (count : Int) ≤ whole then digits ++ zeros (whole.toNat - count) ++ ".0"
  else
    String.ofList (digits.toList.take whole.toNat) ++ "." ++
      String.ofList (digits.toList.drop whole.toNat)

/-- The shortest digits, positional from 10 ^ -4 up to below 10 ^ 16. -/
def layout (decimal : DecimalDigits) : String :=
  let digits := toString decimal.digits
  let whole := (digits.length : Int) + decimal.exponent
  if decimal.digits = 0 then "0.0"
  else if -4 < whole ∧ whole ≤ 16 then positional digits whole
  else exponential digits (whole - 1)

def textWith (words : Words) : Double → String
  | .finite negative rank => signed negative (layout (shortest rank.val))
  | .infinite negative => signed negative words.infinity
  | .notANumber => words.notANumber

def text : Double → String := textWith plainWords

def withPoint (places value : Nat) : String :=
  let digits := (toString value).toList
  let padded := List.replicate (places + 1 - digits.length) '0' ++ digits
  let whole := padded.length - places
  String.ofList (padded.take whole) ++ "." ++ String.ofList (padded.drop whole)

/-- Rounded to a fixed number of places; a half goes to the even neighbour. -/
def textWithPlaces (places : Nat) : Double → String
  | .finite negative rank =>
      signed negative
        (withPoint places (roundQuotient (magnitude rank.val * Nat.pow 10 places) unitsInOne))
  | .infinite negative => signed negative plainWords.infinity
  | .notANumber => plainWords.notANumber

end LedgerRules.Double
