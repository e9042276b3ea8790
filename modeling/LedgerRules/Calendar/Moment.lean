import LedgerRules.Calendar.Date

/-!
A day with a time of the day and perhaps an offset from universal time, in minutes.
-/

namespace LedgerRules

structure TimeOfDay where
  hour : Nat
  minute : Nat
  second : Nat
  microsecond : Nat
  deriving DecidableEq

def TimeOfDay.IsValid (time : TimeOfDay) : Prop :=
  time.hour < 24 ∧ time.minute < 60 ∧ time.second < 60 ∧ time.microsecond < 1000000

instance (time : TimeOfDay) : Decidable time.IsValid := inferInstanceAs (Decidable (_ ∧ _))

structure Moment where
  date : Date
  time : TimeOfDay
  offset : Option Int
  deriving DecidableEq

namespace Moment

def offsetText (minutes : Int) : String :=
  (if minutes < 0 then "-" else "+") ++ Date.padded 2 (minutes.natAbs / 60) ++ ":" ++
    Date.padded 2 (minutes.natAbs % 60)

def textWith (separator : String) (moment : Moment) : String :=
  let time := moment.time
  moment.date.text ++ separator ++ Date.padded 2 time.hour ++ ":" ++ Date.padded 2 time.minute ++
    ":" ++ Date.padded 2 time.second ++
    (if time.microsecond = 0 then "" else "." ++ Date.padded 6 time.microsecond) ++
    (moment.offset.map offsetText).getD ""

def isoText : Moment → String := textWith "T"

def spacedText : Moment → String := textWith " "

def localMicroseconds (moment : Moment) : Int :=
  let time := moment.time
  ((moment.date.dayNumber * 86400 + time.hour * 3600 + time.minute * 60 + time.second) * 1000000 +
    time.microsecond : Nat)

def universalMicroseconds? (moment : Moment) : Option Int :=
  moment.offset.map fun minutes => moment.localMicroseconds - minutes * 60000000

end Moment

end LedgerRules
