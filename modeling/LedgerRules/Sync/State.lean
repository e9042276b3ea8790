import LedgerRules.Files.Basic
import LedgerRules.Json.Reader
import LedgerRules.Json.Writer
import LedgerRules.Ledger.Record
import LedgerRules.Platform

/-!
The state between two runs: a cursor, up to which changes have been seen, and the fingerprint of the
rules under which they were. A cursor is worth nothing under other rules.
-/

namespace LedgerRules

structure SyncState where
  since : Option String := none
  rulesHash : Option String := none
  deriving DecidableEq, Repr

inductive StateError where
  | file (error : FileError)
  | encoding (error : Utf8.DecodingError)
  | json (error : Json.ReadingError)
  | form (path : Path) (found : String)
  | fields (errors : List FieldError)
  | homeUnknown
  | tooDeep

def StateError.message : StateError → String
  | .file error => error.message
  | .encoding error => error.message
  | .json error => error.message
  | .form path found =>
      "Sync state file " ++ path.text ++ " must contain a JSON object, got " ++ found ++ "."
  | .fields errors => faultSummary "SyncState" errors
  | .homeUnknown => Platform.homeMissing
  | .tooDeep => Platform.stackExceeded

namespace SyncState

def toJson (state : SyncState) : Json :=
  .object
    [("since", Json.ofOption .string state.since),
      ("rules_hash", Json.ofOption .string state.rulesHash)]

def check (fields : Json.Fields) : Checked SyncState :=
  let since := Field.absent fields "since" Field.textOnly
  let rulesHash := Field.absent fields "rules_hash" Field.textOnly
  match since, rulesHash with
  | .ok since, .ok rulesHash => .ok ⟨since, rulesHash⟩
  | _, _ => .error (since.errors ++ rulesHash.errors)

def encode (state : SyncState) : Bytes := Utf8.encode (state.toJson.indentedText 0)

/-- The state that the content of a file stores; the path only serves the messages. -/
def decode (path : Path) (content : Bytes) : Except StateError SyncState := do
  let text ← (Utf8.decode? content).mapError .encoding
  match ← (Json.read (Text.unifyLineBreaks text)).mapError .json with
  | .object fields => (check fields).mapError .fields
  | other => throw (.form path other.kindName)

/-- The stored state; where nothing is stored it is empty. -/
def load (files : Files) (path : Path) : Except StateError SyncState := do
  if ← (files.hasNode path).mapError .file then
    decode path (← (files.read path).mapError .file)
  else return {}

def save (path : Path) (state : SyncState) : FileAction Unit := Files.replace path state.encode

/-- The state under the given rules: the cursor is kept only if it was reached under them. -/
def resolve (stored : SyncState) (rulesHash : String) : SyncState :=
  if stored.rulesHash = some rulesHash then stored else ⟨none, some rulesHash⟩

def lostCursor? (stored : SyncState) (rulesHash : String) : Option String :=
  if stored.rulesHash = some rulesHash then none else stored.since

def advance (state : SyncState) (watermark : Option String) : SyncState :=
  match watermark with
  | none => state
  | some cursor => { state with since := some cursor }

end SyncState

end LedgerRules
