import LedgerRules.Digest.Sha256
import LedgerRules.Document.Literal
import LedgerRules.Json.Writer
import LedgerRules.Number.Reader
import LedgerRules.Platform

/-!
The canonical text of a document: JSON without blanks, the keys of every mapping in ascending
order. It does not depend on the order in which keys are given, and its digest identifies the
document. Keys are ordered within their kind; a mapping whose keys are of several kinds has no
canonical text.
-/

namespace LedgerRules

inductive CanonicalError where
  | notOrdered (left right : String)
  | momentAgainstDate
  | offsetAgainstNone
  | unsuitableKey (kind : String)
  | integerTooLong
  | tooDeep
  deriving DecidableEq, Repr

def CanonicalError.message : CanonicalError → String
  | .notOrdered left right =>
      "'<' not supported between instances of '" ++ left ++ "' and '" ++ right ++ "'"
  | .momentAgainstDate => "can't compare datetime.datetime to datetime.date"
  | .offsetAgainstNone => "can't compare offset-naive and offset-aware datetimes"
  | .unsuitableKey kind => "keys must be str, int, float, bool or None, not " ++ kind
  | .integerTooLong => tooLongToWrite
  | .tooDeep => Platform.stackExceeded

namespace Scalar

inductive KeyKind where
  | null
  | number
  | text
  | bytes
  | date
  | localMoment
  | moment
  deriving DecidableEq, Repr

def keyKind : Scalar → KeyKind
  | .null => .null
  | .bool _ => .number
  | .integer _ => .number
  | .double _ => .number
  | .string _ => .text
  | .bytes _ => .bytes
  | .date _ => .date
  | .moment instant => if instant.offset.isSome then .moment else .localMoment

def quotient? : Scalar → Option (Int × Nat)
  | .bool value => some (if value then 1 else 0, 1)
  | .integer value => some (value, 1)
  | .double (.finite negative rank) =>
      let units : Int := Double.magnitude rank.val
      some (if negative then -units else units, Double.unitsInOne)
  | _ => none

/-- The order of numbers; what is not a number comes neither before nor after anything. -/
def numberLess (left right : Scalar) : Bool :=
  match left.quotient?, right.quotient? with
  | some (leftTop, leftBottom), some (rightTop, rightBottom) =>
      leftTop * rightBottom < rightTop * leftBottom
  | _, _ =>
      match left, right with
      | .double .notANumber, _ => false
      | _, .double .notANumber => false
      | .double (.infinite true), .double (.infinite true) => false
      | .double (.infinite true), _ => true
      | _, .double (.infinite false) => left != .double (.infinite false)
      | _, _ => false

def keyLess (left right : Scalar) : Bool :=
  match left, right with
  | .string leftText, .string rightText => leftText < rightText
  | .bytes leftBytes, .bytes rightBytes => leftBytes.map UInt8.toNat < rightBytes.map UInt8.toNat
  | .date leftDate, .date rightDate => leftDate.isBefore rightDate
  | .moment leftMoment, .moment rightMoment =>
      match leftMoment.universalMicroseconds?, rightMoment.universalMicroseconds? with
      | some leftInstant, some rightInstant => leftInstant < rightInstant
      | _, _ => leftMoment.localMicroseconds < rightMoment.localMicroseconds
  | _, _ => numberLess left right

def orderError? (left right : Scalar) : Option CanonicalError :=
  if left.keyKind = right.keyKind ∧ left.keyKind ≠ .null then none
  else
    match left, right with
    | .moment _, .moment _ => some .offsetAgainstNone
    | .moment _, .date _ => some .momentAgainstDate
    | .date _, .moment _ => some .momentAgainstDate
    | _, _ => some (.notOrdered left.kindName right.kindName)

end Scalar

namespace Document

def compareKeys (left right : Scalar) : Except CanonicalError Bool :=
  match left.orderError? right with
  | some error => throw error
  | none => return left.keyLess right

def insertionPlace (key : Scalar) (sorted : Array Scalar) :
    (steps lower upper : Nat) → Except CanonicalError Nat
  | 0, lower, _ => return lower
  | steps + 1, lower, upper =>
      if upper ≤ lower then return lower
      else do
        let middle := lower + (upper - lower) / 2
        match sorted[middle]? with
        | none => return lower
        | some other =>
            if ← compareKeys key other then insertionPlace key sorted steps lower middle
            else insertionPlace key sorted steps (middle + 1) upper

def insertKeys (sorted : Array Scalar) : List Scalar → Except CanonicalError Unit
  | [] => return
  | key :: rest => do
      let place ← insertionPlace key sorted (sorted.size + 1) 0 sorted.size
      insertKeys (sorted.toList.insertIdx place key).toArray rest

/-- Follows the keys as long as they descend, or as long as they do not, and sorts in the rest.
`run` holds the keys of the run, latest first. -/
def sortRun (descending : Bool) : (run : List Scalar) → List Scalar → Except CanonicalError Unit
  | _, [] => return
  | run, key :: rest => do
      let before ← compareKeys key (run.headD .null)
      if before == descending then sortRun descending (key :: run) rest
      else insertKeys (if descending then run else run.reverse).toArray (key :: rest)

/-- The first comparison of keys that fails when they are sorted by runs and insertion. -/
def comparisonError? (keys : List Scalar) : Option CanonicalError :=
  let attempt : Except CanonicalError Unit :=
    match keys with
    | first :: second :: rest => do
        let descending ← compareKeys second first
        sortRun descending [second, first] rest
    | _ => return
  match attempt with
  | .error error => some error
  | .ok _ => none

def areComparable (keys : List Scalar) : Bool :=
  match keys with
  | [] => true
  | [_] => true
  | first :: rest => first.keyKind != .null && rest.all fun key => key.keyKind == first.keyKind

def sortEntries {α : Type} (entries : List (Scalar × α)) : List (Scalar × α) :=
  entries.mergeSort fun left right => !right.1.keyLess left.1

def orderedEntries {α : Type} (entries : List (Scalar × α)) :
    Except CanonicalError (List (Scalar × α)) :=
  let keys := entries.map (·.1)
  if areComparable keys then return sortEntries entries
  else
    match comparisonError? keys with
    | some error => throw error
    | none => return sortEntries entries

def keyText (key : Scalar) : Except CanonicalError String :=
  match key with
  | .null => return "null"
  | .bool value => return if value then "true" else "false"
  | .integer value => return toString value
  | .double value => return value.textWith Double.jsonWords
  | .string text => return text
  | other => throw (.unsuitableKey other.kindName)

def scalarText (value : Scalar) : String :=
  match value with
  | .null => "null"
  | .bool value => if value then "true" else "false"
  | .integer value => toString value
  | .double value => value.textWith Double.jsonWords
  | .string text => Json.rawString text
  | .date day => Json.rawString day.text
  | .moment instant => Json.rawString instant.spacedText
  | .bytes content => Json.rawString (Text.quotedBytes content)

def setText (members : List Scalar) : String :=
  if members.isEmpty then "set()"
  else "\x7b" ++ String.intercalate ", " (members.map Scalar.literal) ++ "\x7d"

def objectText (fields : List (Scalar × Except CanonicalError String)) :
    Except CanonicalError String := do
  let ordered ← orderedEntries fields
  let texts ← ordered.mapM fun (key, value) => do
    let name ← keyText key
    return Json.rawString name ++ ":" ++ (← value)
  return "\x7b" ++ String.intercalate "," texts ++ "\x7d"

def listText (texts : List (Except CanonicalError String)) : Except CanonicalError String := do
  return "[" ++ String.intercalate "," (← texts.mapM id) ++ "]"

mutual

def canonicalText : Document → Except CanonicalError String
  | .scalar value => return scalarText value
  | .list items => listText (itemTexts items)
  | .tuple items => listText (itemTexts items)
  | .mapping entries => objectText (entryTexts entries)
  | .set members => return Json.rawString (setText members)

def itemTexts : List Document → List (Except CanonicalError String)
  | [] => []
  | item :: rest => canonicalText item :: itemTexts rest

def entryTexts : List (Scalar × Document) → List (Scalar × Except CanonicalError String)
  | [] => []
  | (key, value) :: rest => (key, canonicalText value) :: entryTexts rest

end

def fingerprint (document : Document) : Except CanonicalError String :=
  document.canonicalText.map fun text => Sha256.hexDigest (Utf8.encode text)

/-- A scalar in the place of which something is written: not if it has too many digits. -/
def limited {α : Type} (value : Scalar) (written : Except CanonicalError α) :
    Except CanonicalError α :=
  match value with
  | .integer number => if isTooLong number then .error .integerTooLong else written
  | _ => written

mutual

/-- The canonical text as it is written: whole numbers may not have too many digits. -/
def writtenText : Document → Except CanonicalError String
  | .scalar value => limited value (.ok (scalarText value))
  | .list items => listText (writtenItems items)
  | .tuple items => listText (writtenItems items)
  | .mapping entries => objectText (writtenEntries entries)
  | .set members =>
      members.foldr limited (.ok (Json.rawString (setText members)))

def writtenItems : List Document → List (Except CanonicalError String)
  | [] => []
  | item :: rest => writtenText item :: writtenItems rest

def writtenEntries : List (Scalar × Document) → List (Scalar × Except CanonicalError String)
  | [] => []
  | (key, value) :: rest => (key, limited key (writtenText value)) :: writtenEntries rest

end

/-- The fingerprint that a machine gives, unless the document is too deep for its stack. -/
def writtenFingerprint (platform : Platform) (document : Document) :
    Except CanonicalError String := do
  if platform.exhausts (.document document) then throw .tooDeep
  return Sha256.hexDigest (Utf8.encode (← document.writtenText))

end Document

end LedgerRules
