import LedgerRules.Calendar.Moment
import LedgerRules.Number.Reader
import LedgerRules.Text.Blank
import LedgerRules.Text.Case
import LedgerRules.Text.Split

/-!
Dates of mail and web headers, such as `Mon, 01 Apr 2024 00:00:00 GMT`. The parts are found by
their form, so that several old notations are read as well.
-/

namespace LedgerRules.MailDate

open Text

structure Parts where
  year : Int
  month : Nat
  day : Int
  hour : Int
  minute : Int
  second : Int
  offset : Option Int

inductive Overflow where
  | aboveLong
  | aboveInteger
  | belowInteger
  | offsetTooLarge
  | offsetDays (days : Int)
  deriving DecidableEq, Repr

def Overflow.message : Overflow → String
  | .aboveLong => "Python int too large to convert to C long"
  | .aboveInteger => "signed integer is greater than maximum"
  | .belowInteger => "signed integer is less than minimum"
  | .offsetTooLarge => "Python int too large to convert to C int"
  | .offsetDays days => "days=" ++ toString days ++ "; must have magnitude <= 999999999"

def monthNames : List String :=
  ["jan", "feb", "mar", "apr", "may", "jun", "jul", "aug", "sep", "oct", "nov", "dec",
    "january", "february", "march", "april", "may", "june", "july", "august", "september",
    "october", "november", "december"]

def dayNames : List String := ["mon", "tue", "wed", "thu", "fri", "sat", "sun"]

/-- Offsets of named zones, as hours times one hundred. -/
def zones : List (String × Int) :=
  [("UT", 0), ("UTC", 0), ("GMT", 0), ("Z", 0), ("AST", -400), ("ADT", -300), ("EST", -500),
    ("EDT", -400), ("CST", -600), ("CDT", -500), ("MST", -700), ("MDT", -600), ("PST", -800),
    ("PDT", -700)]

abbrev Word := List Char

def lower (word : Word) : String := lowerCase (String.ofList word)

def upper (word : Word) : String := upperCase (String.ofList word)

def splitBlanks : (word : Word) → Word → List Word
  | [], [] => []
  | word, [] => [word.reverse]
  | word, character :: rest =>
      if isBlank character then
        if word.isEmpty then splitBlanks [] rest else word.reverse :: splitBlanks [] rest
      else splitBlanks (character :: word) rest

def endsWithComma (word : Word) : Bool := word.getLast? == some ','

def dropComma (word : Word) : Word := if endsWithComma word then word.dropLast else word

def afterLastComma (word : Word) : Word := ((splitAt ',' word).getLast?).getD word

def dropDayName : List Word → List Word
  | [] => []
  | first :: rest =>
      if endsWithComma first || dayNames.contains (lower first) then rest
      else afterLastComma first :: rest

def splitHyphens (words : List Word) : List Word :=
  match words with
  | [first, second, third] =>
      match splitAt '-' first with
      | [day, month, year] => [day, month, year, second, third]
      | _ => words
  | _ => words

def laterIndex? (character : Char) (word : Word) : Option Nat :=
  match word.findIdx? (· == character) with
  | some (index + 1) => some (index + 1)
  | _ => none

def splitZone (words : List Word) : List Word :=
  match words with
  | [day, month, year, time] =>
      let index? := if time.contains '+' then laterIndex? '+' time else laterIndex? '-' time
      match index? with
      | some index => [day, month, year, time.take index, time.drop index]
      | none => [day, month, year, time, []]
  | _ => words

def readClock (word : Word) : Option (Word × Word × Word) :=
  match splitAt ':' word with
  | [hour, minute] => some (hour, minute, ['0'])
  | [hour, minute, second] => some (hour, minute, second)
  | [_] =>
      match splitAt '.' word with
      | [hour, minute] => some (hour, minute, ['0'])
      | [hour, minute, second] => some (hour, minute, second)
      | _ => none
  | _ => none

def fullYear (year : Int) : Int :=
  if year < 100 then (if 68 < year then year + 1900 else year + 2000) else year

/-- The offset of a zone in seconds. A zone of `-0000` and an unknown one have none. -/
def readZone (word : Word) : Option Int :=
  let name := upper word
  let hundreds : Option Int :=
    match zones.lookup name with
    | some hundreds => some hundreds
    | none =>
        match readInteger? name with
        | some 0 => if name.startsWith "-" then none else some 0
        | other => other
  hundreds.map fun hundreds =>
    let seconds : Int := (hundreds.natAbs / 100 * 3600 + hundreds.natAbs % 100 * 60 : Nat)
    if hundreds < 0 then -seconds else seconds

def number (word : Word) : Option Int := readInteger? (String.ofList word)

def monthNumber? (name : String) : Option Nat :=
  (monthNames.findIdx? (· == name)).map fun index => index % 12 + 1

def readParts (day month year time zone : Word) : Option Parts := do
  if day.isEmpty || month.isEmpty || year.isEmpty then none
  else
    let (day, month) ←
      match monthNumber? (lower month) with
      | some found => some (day, found)
      | none => (monthNumber? (lower day)).map fun found => (lower month |>.toList, found)
    let day := dropComma day
    let (year, time) := if (laterIndex? ':' year).isSome then (time, year) else (year, time)
    let year := dropComma year
    let first ← year.head?
    let (year, zone) := if isAnyDigit first then (year, zone) else (zone, year)
    let (hour, minute, second) ← readClock (dropComma time)
    some
      { year := fullYear (← number year)
        month := month
        day := ← number day
        hour := ← number hour
        minute := ← number minute
        second := ← number second
        offset := readZone zone }

def parts? (text : String) : Option Parts :=
  match splitZone (splitHyphens (dropDayName (splitBlanks [] text.toList))) with
  | day :: month :: year :: time :: zone :: _ => readParts day month year time zone
  | _ => none

def longLimit : Nat := Nat.pow 2 63

def integerLimit : Nat := Nat.pow 2 31

def checkInteger (number : Int) : Except Overflow Unit :=
  if number < -longLimit ∨ longLimit ≤ number then throw .aboveLong
  else if integerLimit ≤ number then throw .aboveInteger
  else if number < -integerLimit then throw .belowInteger
  else return

def checkOffset (seconds : Int) : Except Overflow Unit :=
  let days := seconds.fdiv 86400
  if days < -integerLimit ∨ integerLimit ≤ days then throw .offsetTooLarge
  else if days < -999999999 ∨ 999999999 < days then throw (.offsetDays days)
  else return

def isOffsetInRange (offset : Option Int) : Bool :=
  offset.all fun seconds => seconds.natAbs < 86400

def Parts.moment? (parts : Parts) : Except Overflow (Option Moment) := do
  if let some seconds := parts.offset then checkOffset seconds
  if isOffsetInRange parts.offset then
    for number in [parts.year, parts.day, parts.hour, parts.minute, parts.second] do
      checkInteger number
    if parts.year < 0 ∨ parts.day < 0 ∨ parts.hour < 0 ∨ parts.minute < 0 ∨ parts.second < 0 then
      return none
    let time : TimeOfDay := ⟨parts.hour.toNat, parts.minute.toNat, parts.second.toNat, 0⟩
    if time.IsValid then
      return (Date.ofParts? parts.year.toNat parts.month parts.day.toNat).map fun date =>
        ⟨date, time, parts.offset.map (·.tdiv 60)⟩
    else return none
  else return none

def read (text : String) : Except Overflow (Option Moment) :=
  match parts? text with
  | some parts => parts.moment?
  | none => return none

end LedgerRules.MailDate
