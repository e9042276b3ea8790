import LedgerRules.Document.Basic
import LedgerRules.Number.Text
import LedgerRules.Text.Quoted

/-!
Values as they are shown in messages: words for nothing and the truth values, quoted text, and
dates in the notation of a call.
-/

namespace LedgerRules

def Moment.offsetLiteral (minutes : Int) : String :=
  if minutes = 0 then "datetime.timezone.utc"
  else
    let seconds := minutes * 60
    let days := seconds.fdiv 86400
    let rest := seconds.fmod 86400
    let daysText := if days = 0 then "" else "days=" ++ toString days ++ ", "
    "datetime.timezone(datetime.timedelta(" ++ daysText ++ "seconds=" ++ toString rest ++ "))"

def Moment.literal (moment : Moment) : String :=
  let time := moment.time
  let clock :=
    if time.microsecond ≠ 0 then [time.hour, time.minute, time.second, time.microsecond]
    else if time.second ≠ 0 then [time.hour, time.minute, time.second]
    else [time.hour, time.minute]
  let numbers := [moment.date.year, moment.date.month, moment.date.day] ++ clock
  let zone := (moment.offset.map fun minutes => ", tzinfo=" ++ offsetLiteral minutes).getD ""
  "datetime.datetime(" ++ String.intercalate ", " (numbers.map toString) ++ zone ++ ")"

def Date.literal (date : Date) : String :=
  "datetime.date(" ++
    String.intercalate ", " ([date.year, date.month, date.day].map toString) ++ ")"

namespace Scalar

def literal : Scalar → String
  | .null => "None"
  | .bool value => if value then "True" else "False"
  | .integer value => toString value
  | .double value => value.text
  | .string text => Text.quoted text
  | .date day => day.literal
  | .moment instant => instant.literal
  | .bytes content => Text.quotedBytes content

end Scalar

namespace Json

mutual

def literal : Json → String
  | .null => "None"
  | .bool value => if value then "True" else "False"
  | .integer value => toString value
  | .double value => value.text
  | .string text => Text.quoted text
  | .array items => "[" ++ String.intercalate ", " (itemLiterals items) ++ "]"
  | .object fields => "\x7b" ++ String.intercalate ", " (fieldLiterals fields) ++ "\x7d"

def itemLiterals : List Json → List String
  | [] => []
  | item :: rest => literal item :: itemLiterals rest

def fieldLiterals : List (String × Json) → List String
  | [] => []
  | (name, value) :: rest => (Text.quoted name ++ ": " ++ literal value) :: fieldLiterals rest

end

def shown : Json → String
  | .string text => text
  | value => value.literal

end Json

end LedgerRules
