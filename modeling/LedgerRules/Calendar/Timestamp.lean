import LedgerRules.Calendar.IsoDate
import LedgerRules.Calendar.Moment
import LedgerRules.Number.Double
import LedgerRules.Number.Reader

/-!
Dates given as a day, as a moment at midnight, or as a count of seconds or milliseconds since the
beginning of 1970. A moment at any other time of its day does not stand for a date.
-/

namespace LedgerRules.Date

inductive ReadingFault where
  | kind
  /-- The text writes no date, or the count lies outside the calendar. -/
  | unreadable
  | notMidnight
  /-- The year zero. -/
  | yearZero
  deriving DecidableEq, Repr

def epochDay : Nat := 719163

/-- Larger counts are milliseconds. -/
def mostSeconds : Int := 20000000000

def firstSecond : Int := -11676096000
def lastSecond : Int := 253402300799

def ofCount (count : Int) (microseconds : Nat) : Except ReadingFault Date := do
  let inMilliseconds := mostSeconds < (count.natAbs : Int)
  let seconds := if inMilliseconds then count.fdiv 1000 else count
  let extra := if inMilliseconds then (count.fmod 1000).toNat * 1000 else 0
  if seconds < firstSecond ∨ lastSecond < seconds then throw .unreadable
  let total := microseconds + extra
  let seconds := seconds + (total / 1000000 : Nat)
  if seconds < firstSecond ∨ lastSecond < seconds then throw .unreadable
  if total % 1000000 ≠ 0 ∨ seconds % 86400 ≠ 0 then throw .notMidnight
  match ofDayNumber? (seconds / 86400 + epochDay).toNat with
  | some date => return date
  | none => throw .unreadable

def countLimit : Nat := Nat.pow 2 63

def isSmallCount (count : Int) : Bool := -countLimit ≤ count && count < countLimit

def ofInteger (count : Int) : Except ReadingFault Date :=
  if isSmallCount count then ofCount count 0 else throw .unreadable

def roundHalfUp (numerator denominator : Nat) : Nat :=
  (2 * numerator + denominator) / (2 * denominator)

/-- A count with a fraction: the seconds are rounded down, and the fraction, without regard to the
sign, is rounded to microseconds. -/
def ofDouble : Double → Except ReadingFault Date
  | .finite negative rank =>
      let units := Double.magnitude rank.val
      let whole : Int := (units / Double.unitsInOne : Nat)
      let fraction := units % Double.unitsInOne
      let floor := if negative then (if fraction = 0 then -whole else -whole - 1) else whole
      let scaled := Double.ofQuotient false (fraction * 1000000) Double.unitsInOne
      let microseconds :=
        match scaled with
        | .finite _ rank => roundHalfUp (Double.magnitude rank.val) Double.unitsInOne
        | _ => 0
      if isSmallCount floor then ofCount floor microseconds else throw .unreadable
  | _ => throw .unreadable

def takeDay (characters : List Char) : Option (Nat × Nat × Nat × List Char) := do
  let (year, rest) ← takeNumber 4 0 characters
  let rest ← takeHyphen true rest
  let (month, rest) ← takeNumber 2 0 rest
  let rest ← takeHyphen true rest
  let (day, rest) ← takeNumber 2 0 rest
  if 1 ≤ month ∧ month ≤ 12 ∧ 1 ≤ day ∧ day ≤ daysInMonth year month then
    some (year, month, day, rest)
  else none

def takeSexagesimal (characters : List Char) : Option (Nat × List Char) :=
  match characters with
  | ':' :: rest => do
      let (number, rest) ← takeNumber 2 0 rest
      if number < 60 then some (number, rest) else none
  | _ => none

/-- The digits of a fraction of a second, of which the first six count. -/
def takeSecondFraction (characters : List Char) : Option (Nat × List Char) :=
  match characters with
  | mark :: rest =>
      if mark == '.' || mark == ',' then
        match takeDigits rest with
        | ([], _) => none
        | (values, rest) =>
            some (Text.ofDigitValues 10 ((values ++ [0, 0, 0, 0, 0, 0]).take 6), rest)
      else some (0, characters)
  | [] => some (0, [])

def isOffset (characters : List Char) : Bool :=
  match characters with
  | [] => true
  | ['Z'] => true
  | ['z'] => true
  | sign :: rest =>
      (sign == '+' || sign == '-' || sign == '\u2212') &&
        match takeNumber 2 0 rest with
        | some (hours, rest) =>
            let rest := match rest with
              | ':' :: rest => rest
              | rest => rest
            match takeNumber 2 0 rest with
            | some (minutes, []) => minutes < 60 && hours < 24
            | _ => false
        | none => false

/-- The time of a moment, after the letter or blank that separates it from the day. Seconds may be
left out, and only seconds have a fraction. -/
def readTime (characters : List Char) : Option TimeOfDay := do
  let (hour, rest) ← takeNumber 2 0 characters
  let (minute, rest) ← takeSexagesimal rest
  let (second, microsecond, rest) ←
    match rest with
    | ':' :: _ => do
        let (second, rest) ← takeSexagesimal rest
        let (microsecond, rest) ← takeSecondFraction rest
        some (second, microsecond, rest)
    | _ => some (0, 0, rest)
  if hour < 24 ∧ isOffset rest then some ⟨hour, minute, second, microsecond⟩ else none

def readCalendarDay (characters : List Char) : Option (Except ReadingFault Date) := do
  let (year, month, day, rest) ← takeDay characters
  let date : Except ReadingFault Date :=
    match ofParts? year month day with
    | some date => .ok date
    | none => .error .yearZero
  match rest with
  | [] => some date
  | separator :: rest =>
      if separator == 'T' || separator == 't' || separator == ' ' || separator == '_' then
        (readTime rest).map fun time =>
          if time = ⟨0, 0, 0, 0⟩ then date else .error .notMidnight
      else none

def readCount (characters : List Char) : Option (Except ReadingFault Date) :=
  let (negative, rest) := takeSign characters
  match takeDigits rest with
  | ([], _) => none
  | (values, []) =>
      let size := Text.ofDigitValues 10 values
      if size < countLimit then some (ofInteger (if negative then -size else size)) else none
  | (values, '.' :: rest) =>
      match takeDigits rest with
      | (fraction, []) =>
          if Text.ofDigitValues 10 values < countLimit then
            some (ofDouble (Double.ofDecimal negative
              (Text.ofDigitValues 10 (values ++ fraction)) (-fraction.length)))
          else none
      | _ => none
  | _ => none

def ofText (text : String) : Except ReadingFault Date :=
  let characters := text.toList
  ((readCalendarDay characters).orElse fun _ => readCount characters).getD (.error .unreadable)

end LedgerRules.Date
