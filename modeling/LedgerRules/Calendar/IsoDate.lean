import LedgerRules.Calendar.Date
import LedgerRules.Number.Reader
import LedgerRules.Text.Utf8

/-!
Dates in ISO 8601 notation: a month and a day, or a week and perhaps a day of it, with or without
hyphens.
-/

namespace LedgerRules.Date

def takeNumber : (count : Nat) → (number : Nat) → List Char → Option (Nat × List Char)
  | 0, number, rest => some (number, rest)
  | count + 1, number, character :: rest =>
      if character.isDigit then takeNumber count (number * 10 + (character.toNat - 48)) rest
      else none
  | _ + 1, _, [] => none

def takeHyphen (required : Bool) (characters : List Char) : Option (List Char) :=
  if required then
    match characters with
    | '-' :: rest => some rest
    | _ => none
  else some characters

/-- The week notation after its `W`. Without a day of the week it means the Monday. -/
def readWeek (year : Nat) (hyphens : Bool) (characters : List Char) : Option Date := do
  let (week, rest) ← takeNumber 2 0 characters
  if rest.isEmpty then ofWeek? year week 1
  else
    let rest ← takeHyphen hyphens rest
    let (day, _) ← takeNumber 1 0 rest
    ofWeek? year week day

def readMonthDay (year : Nat) (hyphens : Bool) (characters : List Char) : Option Date := do
  let (month, rest) ← takeNumber 2 0 characters
  let rest ← takeHyphen hyphens rest
  let (day, _) ← takeNumber 2 0 rest
  ofParts? year month day

/-- Reads a date of seven, eight or ten bytes. What stands after a complete date is not read. -/
def ofIsoText? (text : String) : Option Date := do
  let size := (Utf8.encode text).length
  if size ≠ 7 ∧ size ≠ 8 ∧ size ≠ 10 then none
  else
    let (year, rest) ← takeNumber 4 0 text.toList
    let hyphens := rest.head? == some '-'
    let rest := if hyphens then rest.drop 1 else rest
    match rest with
    | 'W' :: rest => readWeek year hyphens rest
    | rest => readMonthDay year hyphens rest

end LedgerRules.Date
