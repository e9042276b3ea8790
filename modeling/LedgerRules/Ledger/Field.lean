import LedgerRules.Calendar.Timestamp
import LedgerRules.Document.Literal

/-!
Reading the fields of a record. A record is checked field by field, and all faults are reported, in
the order of the fields.
-/

namespace LedgerRules

inductive FieldFault where
  | missing
  | text
  | encodedText
  | number
  | numberText
  | list
  | object
  | date (fault : Date.ReadingFault)
  | unknownField
  | key
  /-- No fault of the field: the number in it has too many digits to be written. -/
  | integerTooLong
  deriving DecidableEq, Repr

def FieldFault.code : FieldFault → String
  | .missing => "missing"
  | .text => "string_type"
  | .encodedText => "string_unicode"
  | .number => "float_type"
  | .numberText => "float_parsing"
  | .list => "list_type"
  | .object => "model_type"
  | .date .kind => "date_type"
  | .date .unreadable => "date_from_datetime_parsing"
  | .date .notMidnight => "date_from_datetime_inexact"
  | .date .yearZero => "date_parsing"
  | .unknownField => "extra_forbidden"
  | .key => "invalid_key"
  | .integerTooLong => tooLongToWrite

def FieldFault.description : FieldFault → String
  | .missing => "Field required"
  | .text => "Input should be a valid string"
  | .encodedText => "Input should be a valid string, unable to parse raw data as a unicode string"
  | .list => "Input should be a valid list"
  | .unknownField => "Extra inputs are not permitted"
  | .key => "Keys should be strings"
  | fault => fault.code

inductive Step where
  | field (name : String)
  | item (index : Nat)
  deriving DecidableEq, Repr

def Step.text : Step → String
  | .field name => name
  | .item index => toString index

structure FieldError where
  path : List Step
  fault : FieldFault
  deriving DecidableEq, Repr

def FieldError.within (step : Step) (error : FieldError) : FieldError :=
  { error with path := step :: error.path }

abbrev Checked (α : Type) := Except (List FieldError) α

namespace Checked

def errors {α : Type} : Checked α → List FieldError
  | .ok _ => []
  | .error errors => errors

def fault {α : Type} (fault : FieldFault) : Checked α := .error [⟨[], fault⟩]

def within {α : Type} (step : Step) (checked : Checked α) : Checked α :=
  checked.mapError fun errors => errors.map (·.within step)

def items {α β : Type} (check : α → Checked β) : (index : Nat) → List α → Checked (List β)
  | _, [] => .ok []
  | index, item :: rest =>
      match within (.item index) (check item), items check (index + 1) rest with
      | .ok value, .ok values => .ok (value :: values)
      | first, others => .error (errors first ++ errors others)

end Checked

namespace Field

def text : Json → Checked String
  | .string text => .ok text
  | .integer value => .ok (toString value)
  | .double value => .ok value.text
  | _ => .error [⟨[], .text⟩]

def textOnly : Json → Checked String
  | .string text => .ok text
  | _ => .error [⟨[], .text⟩]

/-- White space around a number; the separators of files and records are not part of it. -/
def isNumberBlank (character : Char) : Bool :=
  Text.isBlank character && !(0x1C ≤ character.toNat && character.toNat ≤ 0x1F)

def trimNumber (characters : List Char) : List Char :=
  ((characters.dropWhile isNumberBlank).reverse.dropWhile isNumberBlank).reverse

/-- The number that a text writes. Blanks around it are ignored unless it has low lines, which may
not begin or end it and may not follow one another. -/
def numberText (text : String) : Option Double :=
  let characters := text.toList
  let hasDoubled := (characters.zip (characters.drop 1)).contains ('_', '_')
  match Double.readCharacters (trimNumber characters) with
  | some value => some value
  | none =>
      if characters.head? == some '_' || characters.getLast? == some '_' || hasDoubled then none
      else Double.readCharacters (characters.filter (· != '_'))

/-- A number; a truth value counts as one or zero. -/
def number : Json → Checked Double
  | .double value => .ok value
  | .bool value => .ok (Double.ofInt (if value then 1 else 0))
  | .integer value =>
      let number := Double.ofInt value
      if number.isFinite then .ok number else .error [⟨[], .number⟩]
  | .string text =>
      match numberText text with
      | some value => .ok value
      | none => .error [⟨[], .numberText⟩]
  | _ => .error [⟨[], .number⟩]

def date : Json → Checked Date
  | .string text => (Date.ofText text).mapError fun fault => [⟨[], .date fault⟩]
  | .integer count => (Date.ofInteger count).mapError fun fault => [⟨[], .date fault⟩]
  | .double count => (Date.ofDouble count).mapError fun fault => [⟨[], .date fault⟩]
  | _ => .error [⟨[], .date .kind⟩]

def list {α : Type} (check : Json → Checked α) : Json → Checked (List α)
  | .array items => Checked.items check 0 items
  | _ => .error [⟨[], .list⟩]

def optional {α : Type} (check : Json → Checked α) : Json → Checked (Option α)
  | .null => .ok none
  | value => (check value).map some

def required {α : Type} (fields : Json.Fields) (name : String) (check : Json → Checked α) :
    Checked α :=
  match fields.get? name with
  | some value => Checked.within (.field name) (check value)
  | none => .error [⟨[.field name], .missing⟩]

def absent {α : Type} (fields : Json.Fields) (name : String) (check : Json → Checked α) :
    Checked (Option α) :=
  match fields.get? name with
  | some value => Checked.within (.field name) (optional check value)
  | none => .ok none

end Field

end LedgerRules
