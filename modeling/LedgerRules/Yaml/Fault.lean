import LedgerRules.Calendar.Date
import LedgerRules.Number.Reader
import LedgerRules.Text.Quoted

/-!
What can be wrong with a YAML text: it is malformed, or one of its scalars has no value of the kind
that it claims.
-/

namespace LedgerRules.Yaml

inductive TimeFault where
  | year (value : Nat)
  | month
  | day
  | hour
  | minute
  | second
  | offset (minutes : Int)
  deriving DecidableEq, Repr

inductive Fault where
  | malformed
  | codePoint
  | codeTooLarge
  | integerText (text : String) (base : Nat)
  | integerTooLong (digits : Nat)
  | numberText (text : String)
  | emptyNumber
  | truthValue (text : String)
  | timeText
  | time (fault : TimeFault)
  deriving DecidableEq, Repr

def spanText (minutes : Int) : String :=
  let seconds := minutes * 60
  let days := seconds.fdiv 86400
  let rest := seconds.fmod 86400
  let parts :=
    (if days = 0 then [] else ["days=" ++ toString days]) ++
      (if rest = 0 then [] else ["seconds=" ++ toString rest])
  "datetime.timedelta(" ++ (if parts.isEmpty then "0" else String.intercalate ", " parts) ++ ")"

def TimeFault.message : TimeFault → String
  | .year value => "year " ++ toString value ++ " is out of range"
  | .month => "month must be in 1..12"
  | .day => "day is out of range for month"
  | .hour => "hour must be in 0..23"
  | .minute => "minute must be in 0..59"
  | .second => "second must be in 0..59"
  | .offset minutes =>
      "offset must be a timedelta strictly between -timedelta(hours=24) and " ++
        "timedelta(hours=24), not " ++ spanText minutes ++ "."

def Fault.message : Fault → String
  | .malformed => "malformed"
  | .codePoint => "chr() arg not in range(0x110000)"
  | .codeTooLarge => "Python int too large to convert to C int"
  | .integerText text base =>
      "invalid literal for int() with base " ++ toString base ++ ": " ++ Text.quoted text
  | .integerTooLong digits => tooLongToRead digits
  | .numberText text => "could not convert string to float: " ++ Text.quoted text
  | .emptyNumber => "string index out of range"
  | .truthValue text => Text.quoted text
  | .timeText => "'NoneType' object has no attribute 'groupdict'"
  | .time fault => fault.message

end LedgerRules.Yaml
