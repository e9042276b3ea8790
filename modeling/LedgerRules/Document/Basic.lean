import LedgerRules.Calendar.Moment
import LedgerRules.Json.Basic
import LedgerRules.Text.Utf8

/-!
Documents that rules are written in. A scalar may be of more kinds than in JSON, and a mapping may
have scalars of any kind as keys; its entries keep the order in which the keys were first given.
-/

namespace LedgerRules

inductive Scalar where
  | null
  | bool (value : Bool)
  | integer (value : Int)
  | double (value : Double)
  | string (text : String)
  | date (day : Date)
  | moment (instant : Moment)
  | bytes (content : Bytes)
  deriving DecidableEq

inductive Document where
  | scalar (value : Scalar)
  | list (items : List Document)
  | tuple (items : List Document)
  | mapping (entries : List (Scalar × Document))
  | set (members : List Scalar)

namespace Scalar

def kindName : Scalar → String
  | .null => "NoneType"
  | .bool _ => "bool"
  | .integer _ => "int"
  | .double _ => "float"
  | .string _ => "str"
  | .date _ => "datetime.date"
  | .moment _ => "datetime.datetime"
  | .bytes _ => "bytes"

def wholeNumber? : Scalar → Option Int
  | .bool value => some (if value then 1 else 0)
  | .integer value => some value
  | .double value => value.toInt?
  | _ => none

/-- Whether two scalars are the same key of a mapping. Numbers are the same if they are equal,
whatever their kinds, and moments if they are the same instant; what is no number is the same as
itself. -/
def isSameKey (left right : Scalar) : Bool :=
  match left.wholeNumber?, right.wholeNumber? with
  | some leftNumber, some rightNumber => leftNumber == rightNumber
  | none, none =>
      match left, right with
      | .double leftValue, .double rightValue =>
          leftValue.equals rightValue || (leftValue.isNotANumber && rightValue.isNotANumber)
      | .moment leftMoment, .moment rightMoment =>
          match leftMoment.universalMicroseconds?, rightMoment.universalMicroseconds? with
          | some leftInstant, some rightInstant => leftInstant == rightInstant
          | none, none => leftMoment.localMicroseconds == rightMoment.localMicroseconds
          | _, _ => false
      | _, _ => left == right
  | _, _ => false

end Scalar

namespace Document

instance : Inhabited Document := ⟨.scalar .null⟩

abbrev Entries := List (Scalar × Document)

/-- Sets the value of a key: a new key comes last, an old one keeps its place and its form. -/
def Entries.insert (entries : Entries) (key : Scalar) (value : Document) : Entries :=
  match entries with
  | [] => [(key, value)]
  | (other, old) :: rest =>
      if other.isSameKey key then (other, value) :: rest
      else (other, old) :: Entries.insert rest key value

def Entries.get? (entries : Entries) (name : String) : Option Document :=
  (entries.find? fun entry => entry.1 == .string name).map (·.2)

def kindName : Document → String
  | .scalar (.date _) => "date"
  | .scalar (.moment _) => "datetime"
  | .scalar value => value.kindName
  | .list _ => "list"
  | .tuple _ => "tuple"
  | .mapping _ => "dict"
  | .set _ => "set"

mutual

def ofJson : Json → Document
  | .null => .scalar .null
  | .bool value => .scalar (.bool value)
  | .integer value => .scalar (.integer value)
  | .double value => .scalar (.double value)
  | .string text => .scalar (.string text)
  | .array items => .list (ofItems items)
  | .object fields => .mapping (ofFields fields)

def ofItems : List Json → List Document
  | [] => []
  | item :: rest => ofJson item :: ofItems rest

def ofFields : List (String × Json) → List (Scalar × Document)
  | [] => []
  | (name, value) :: rest => (.string name, ofJson value) :: ofFields rest

end

def isEmptyValue : Document → Bool
  | .scalar .null => true
  | .scalar (.bool value) => !value
  | .scalar (.integer value) => value == 0
  | .scalar (.double value) => value.equals (Double.zero false)
  | .scalar (.string text) => text.isEmpty
  | .scalar (.bytes content) => content.isEmpty
  | .scalar (.date _) => false
  | .scalar (.moment _) => false
  | .list items => items.isEmpty
  | .tuple items => items.isEmpty
  | .mapping entries => entries.isEmpty
  | .set members => members.isEmpty

end Document

end LedgerRules
