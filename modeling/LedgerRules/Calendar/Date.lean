/-!
Days of the proleptic Gregorian calendar from the year 1 to the year 9999, numbered from one. Only
existing days are values of the type.
-/

namespace LedgerRules

def isLeapYear (year : Nat) : Bool := year % 4 == 0 && (year % 100 != 0 || year % 400 == 0)

def daysInMonth (year month : Nat) : Nat :=
  if month = 2 then (if isLeapYear year then 29 else 28)
  else if month = 4 ∨ month = 6 ∨ month = 9 ∨ month = 11 then 30
  else 31

def IsDay (year month day : Nat) : Prop :=
  (1 ≤ year ∧ year ≤ 9999) ∧ (1 ≤ month ∧ month ≤ 12) ∧ (1 ≤ day ∧ day ≤ daysInMonth year month)

instance (year month day : Nat) : Decidable (IsDay year month day) :=
  inferInstanceAs (Decidable (_ ∧ _))

structure Date where
  year : Nat
  month : Nat
  day : Nat
  exists_day : IsDay year month day
  deriving DecidableEq

namespace Date

def ofParts? (year month day : Nat) : Option Date :=
  if existing : IsDay year month day then some ⟨year, month, day, existing⟩ else none

def padded (width number : Nat) : String :=
  let digits := (toString number).toList
  String.ofList (List.replicate (width - digits.length) '0' ++ digits)

def text (date : Date) : String :=
  padded 4 date.year ++ "-" ++ padded 2 date.month ++ "-" ++ padded 2 date.day

def daysBeforeYear (year : Nat) : Nat :=
  let past := year - 1
  past * 365 + past / 4 - past / 100 + past / 400

def daysBeforeMonth (year month : Nat) : Nat :=
  (List.range (month - 1)).foldl (fun days index => days + daysInMonth year (index + 1)) 0

/-- The number of the day; the first day of the year 1 has the number one. -/
def dayNumber (date : Date) : Nat :=
  daysBeforeYear date.year + daysBeforeMonth date.year date.month + date.day

def monthAndDay (year : Nat) : (months month day : Nat) → Nat × Nat
  | 0, month, day => (month, day + 1)
  | months + 1, month, day =>
      if day < daysInMonth year month then (month, day + 1)
      else monthAndDay year months (month + 1) (day - daysInMonth year month)

def ofDayNumber? (number : Nat) : Option Date :=
  if number = 0 then none
  else
    let days := number - 1
    let centuries := min 3 (days % 146097 / 36524)
    let inCentury := days % 146097 - centuries * 36524
    let olympiads := inCentury / 1461
    let years := min 3 (inCentury % 1461 / 365)
    let year := days / 146097 * 400 + centuries * 100 + olympiads * 4 + years + 1
    let (month, day) := monthAndDay year 11 1 (inCentury % 1461 - years * 365)
    ofParts? year month day

def isBefore (left right : Date) : Bool := left.dayNumber < right.dayNumber

def minusDays? (date : Date) (days : Nat) : Option Date := ofDayNumber? (date.dayNumber - days)

def weekday (number : Nat) : Nat := (number + 6) % 7

/-- The number of the Monday of the first week of a year: the week that holds the first
Thursday. -/
def firstMonday (year : Nat) : Nat :=
  let first := daysBeforeYear year + 1
  let day := weekday first
  if 3 < day then first - day + 7 else first - day

def hasWeek53 (year : Nat) : Bool :=
  let day := weekday (daysBeforeYear year + 1)
  day == 3 || (day == 2 && isLeapYear year)

def ofWeek? (year week day : Nat) : Option Date :=
  if year = 0 ∨ week = 0 ∨ 53 < week ∨ (week = 53 ∧ !hasWeek53 year) ∨ day = 0 ∨ 7 < day then none
  else ofDayNumber? (firstMonday year + (week - 1) * 7 + (day - 1))

end Date

end LedgerRules
