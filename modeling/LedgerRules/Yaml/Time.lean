import LedgerRules.Calendar.Moment
import LedgerRules.Number.Reader
import LedgerRules.Yaml.Fault

/-!
Dates and times as YAML writes them.
-/

namespace LedgerRules.Yaml

/-- The parts of a time as they are written. A fraction counts microseconds, an offset minutes. -/
structure WrittenTime where
  year : Nat
  month : Nat
  day : Nat
  clock : Option (Nat × Nat × Nat × Nat)
  offset : Option Int

namespace WrittenTime

def numberOf (digits : List Char) : Nat :=
  Text.ofDigitValues 10 (digits.map fun digit => digit.toNat - 48)

def number (least most : Nat) (characters : List Char) : Option (Nat × List Char) :=
  let digits := (characters.take most).takeWhile Char.isDigit
  if digits.length < least then none
  else some (numberOf digits, characters.drop digits.length)

def mark (expected : Char) : List Char → Option (List Char)
  | character :: rest => if character == expected then some rest else none
  | [] => none

def isBlank (character : Char) : Bool := character == ' ' || character == '\t'

/-- A fraction of a second in microseconds; further digits are dropped. -/
def readFraction : List Char → Nat × List Char
  | '.' :: rest =>
      let digits := rest.takeWhile Char.isDigit
      let kept := digits.take 6
      (numberOf (kept ++ List.replicate (6 - kept.length) '0'), rest.drop digits.length)
  | characters => (0, characters)

def readOffset (characters : List Char) : Option (Option Int) :=
  match characters with
  | [] => some none
  | ['\n'] => some none
  | _ =>
      match characters.dropWhile isBlank with
      | 'Z' :: rest => if rest == [] || rest == ['\n'] then some (some 0) else none
      | sign :: rest => do
          if sign != '+' && sign != '-' then none
          let (hours, rest) ← number 1 2 rest
          let (minutes, rest) ←
            match rest with
            | ':' :: rest => number 2 2 rest
            | _ => some (0, rest)
          if rest != [] && rest != ['\n'] then none
          let size : Int := (hours * 60 + minutes : Nat)
          return some (if sign == '-' then -size else size)
      | [] => none

def separator : List Char → Option (List Char)
  | [] => none
  | character :: rest =>
      if character == 'T' || character == 't' then some rest
      else if isBlank character then some (rest.dropWhile isBlank)
      else none

def read? (characters : List Char) : Option WrittenTime := do
  let (year, rest) ← number 4 4 characters
  let (month, rest) ← number 1 2 (← mark '-' rest)
  let (day, rest) ← number 1 2 (← mark '-' rest)
  if rest == [] || rest == ['\n'] then return ⟨year, month, day, none, none⟩
  let (hour, rest) ← number 1 2 (← separator rest)
  let (minute, rest) ← number 2 2 (← mark ':' rest)
  let (second, rest) ← number 2 2 (← mark ':' rest)
  let (microsecond, rest) := readFraction rest
  let offset ← readOffset rest
  return ⟨year, month, day, some (hour, minute, second, microsecond), offset⟩

def existingDate (written : WrittenTime) : Except TimeFault Date :=
  match Date.ofParts? written.year written.month written.day with
  | some date => .ok date
  | none =>
      if written.year < 1 then .error (.year written.year)
      else if written.month < 1 ∨ 12 < written.month then .error .month
      else .error .day

def value (written : WrittenTime) : Except TimeFault (Date ⊕ Moment) := do
  match written.clock with
  | none => return .inl (← written.existingDate)
  | some (hour, minute, second, microsecond) =>
      if let some minutes := written.offset then
        if 24 * 60 ≤ minutes.natAbs then throw (.offset minutes)
      let date ← written.existingDate
      if 23 < hour then throw .hour
      if 59 < minute then throw .minute
      if 59 < second then throw .second
      return .inr ⟨date, ⟨hour, minute, second, microsecond⟩, written.offset⟩

end WrittenTime

end LedgerRules.Yaml
