import LedgerRules.Ledger.Record
import LedgerRules.Service.Client

/-!
What a run needs of a ledger service: fetching all records of a kind, and replacing an entry. A
service may keep a state of its own.
-/

namespace LedgerRules

/-- Which entries are wanted: those of a range of days, and of these only the ones that changed
after a cursor. -/
structure EntryQuery where
  first : Date
  last : Date
  since : Option String
  deriving DecidableEq

def EntryQuery.fields (query : EntryQuery) : Json.Fields :=
  [("from", .string query.first.text), ("to", .string query.last.text),
    ("since", Json.ofOption .string query.since)]

structure ServiceAnswer (σ α : Type) where
  result : Except ServiceError α
  log : List LogRecord
  state : σ

structure LedgerService (σ : Type) where
  fetchAll : RecordKind → Option EntryQuery → σ → ServiceAnswer σ FetchResult
  replaceEntry : (id : String) → (record : Json) → σ → ServiceAnswer σ Unit

namespace LedgerService

def answer {α : Type} (exchange : Exchange α) (connection : Connection) :
    ServiceAnswer Connection α :=
  let (result, connection) := exchange.run { connection with log := [] }
  ⟨result, connection.log, { connection with log := [] }⟩

/-- A record that is too deep is noticed before it is sent. -/
def ofClient (client : Client) : LedgerService Connection where
  fetchAll kind query connection :=
    answer (client.fetchAll kind.resource ((query.map EntryQuery.fields).getD [])) connection
  replaceEntry id record connection :=
    let written : Except ServiceError Unit :=
      if client.platform.exhausts (.entry record) then .error .entryTooDeep else .ok ()
    answer (do
      written
      let _ ← client.replace RecordKind.entry.resource id (some record)) connection

end LedgerService

end LedgerRules
