import LedgerRules.Ledger.Catalog
import LedgerRules.Ledger.Field

/-!
Records of the ledger service: reading entries and catalog items from them, and writing entries
back. Writing leaves out optional fields that are empty and keeps all unknown ones.
-/

namespace LedgerRules

inductive RecordKind where
  | entry
  | account
  | category
  | tag
  deriving DecidableEq, Repr

namespace RecordKind

def text : RecordKind → String
  | .entry => "entry"
  | .account => "account"
  | .category => "category"
  | .tag => "tag"

def title : RecordKind → String
  | .entry => "Entry"
  | .account => "Account"
  | .category => "Category"
  | .tag => "Tag"

def resource : RecordKind → String
  | .entry => "entries"
  | .account => "accounts"
  | .category => "categories"
  | .tag => "tags"

end RecordKind

def faultSummary (form : String) (errors : List FieldError) : String :=
  toString errors.length ++ " validation error" ++ (if errors.length = 1 then "" else "s") ++
    " for " ++ form

inductive RecordError where
  | notAnObject (kind : RecordKind) (found : String)
  | malformed (kind : RecordKind) (id : Json) (errors : List FieldError)

def RecordError.message : RecordError → String
  | .notAnObject kind found =>
      "Toshl " ++ kind.text ++ " record must be a JSON object, got " ++ found ++ "."
  | .malformed kind id errors =>
      "Malformed Toshl " ++ kind.text ++ " record " ++ id.shown ++ ": " ++
        faultSummary kind.title errors

def Json.Fields.others (fields : Json.Fields) (known : List String) : Json.Fields :=
  fields.filter fun field => !known.contains field.1

def Json.Fields.present (name : String) (value : Option Json) : Json.Fields :=
  match value with
  | some value => [(name, value)]
  | none => []

namespace Currency

def knownFields : List String := ["code"]

def check : Json → Checked Currency
  | .object fields =>
      (Field.required fields "code" Field.textOnly).map fun code =>
        ⟨code, Json.Fields.others fields knownFields⟩
  | _ => Checked.fault .object

def toRecord (currency : Currency) : Json :=
  .object (("code", .string currency.code) :: currency.unknown)

end Currency

namespace LinkedTransaction

def knownFields : List String := ["id", "account", "currency"]

def check : Json → Checked LinkedTransaction
  | .object fields =>
      let id := Field.absent fields "id" Field.text
      let account := Field.absent fields "account" Field.text
      let currency := Field.absent fields "currency" Currency.check
      match id, account, currency with
      | .ok id, .ok account, .ok currency =>
          .ok ⟨id, account, currency, Json.Fields.others fields knownFields⟩
      | _, _, _ => .error (id.errors ++ account.errors ++ currency.errors)
  | _ => Checked.fault .object

/-- The record of a linked transaction, without the fields that are null. -/
def toRecord (transaction : LinkedTransaction) : Json :=
  .object
    (Json.Fields.present "id" (transaction.id.map .string) ++
      Json.Fields.present "account" (transaction.account.map .string) ++
      Json.Fields.present "currency" (transaction.currency.map Currency.toRecord) ++
      transaction.unknown.filter fun field => !field.2.isNull)

end LinkedTransaction

namespace Entry

/-- The name under which a record gives its description: `description` counts only where there is
no `desc`. -/
def descriptionField (fields : Json.Fields) : String :=
  if (fields.get? "desc").isNone && (fields.get? "description").isSome then "description"
  else "desc"

def knownFields (fields : Json.Fields) : List String :=
  ["id", descriptionField fields, "amount", "currency", "date", "account", "category", "tags",
    "transaction"]

def check (fields : Json.Fields) : Checked Entry :=
  let id := Field.required fields "id" Field.text
  let description := Field.absent fields (descriptionField fields) Field.text
  let amount := Field.required fields "amount" Field.number
  let currency := Field.required fields "currency" Currency.check
  let date := Field.required fields "date" Field.date
  let account := Field.required fields "account" Field.text
  let category := Field.absent fields "category" Field.text
  let tags := Field.absent fields "tags" (Field.list Field.text)
  let transaction := Field.absent fields "transaction" LinkedTransaction.check
  match id, description, amount, currency, date, account, category, tags, transaction with
  | .ok id, .ok description, .ok amount, .ok currency, .ok date, .ok account, .ok category,
    .ok tags, .ok transaction =>
      .ok
        { id, description, amount, currency, date, account, category, tags, transaction,
          unknown := fields.others (knownFields fields) }
  | _, _, _, _, _, _, _, _, _ =>
      .error
        (id.errors ++ description.errors ++ amount.errors ++ currency.errors ++ date.errors ++
          account.errors ++ category.errors ++ tags.errors ++ transaction.errors)

def toRecord (entry : Entry) : Json :=
  .object
    (("id", .string entry.id) :: Json.Fields.present "desc" (entry.description.map .string) ++
      [("amount", .double entry.amount), ("currency", entry.currency.toRecord),
        ("date", .string entry.date.text), ("account", .string entry.account)] ++
      Json.Fields.present "category" (entry.category.map .string) ++
      Json.Fields.present "tags" (entry.tags.map fun tags => .array (tags.map .string)) ++
      Json.Fields.present "transaction" (entry.transaction.map LinkedTransaction.toRecord) ++
      entry.unknown)

end Entry

namespace Reference

def check (hasKind : Bool) (fields : Json.Fields) : Checked Reference :=
  let id := Field.required fields "id" Field.text
  let name := Field.required fields "name" Field.text
  let kind : Checked (Option String) :=
    if hasKind then (Field.required fields "type" Field.text).map some else .ok none
  match id, name, kind with
  | .ok id, .ok name, .ok kind => .ok ⟨id, name, kind⟩
  | _, _, _ => .error (id.errors ++ name.errors ++ kind.errors)

def toRecord (reference : Reference) : Json :=
  .object
    ([("id", .string reference.id), ("name", .string reference.name)] ++
      Json.Fields.present "type" (reference.kind.map .string))

end Reference

def readRecord {α : Type} (kind : RecordKind) (check : Json.Fields → Checked α) (record : Json) :
    Except RecordError α :=
  match record with
  | .object fields =>
      (check fields).mapError fun errors =>
        .malformed kind ((Json.Fields.get? fields "id").getD (.string "?")) errors
  | other => .error (.notAnObject kind other.kindName)

def Entry.ofRecord (record : Json) : Except RecordError Entry :=
  readRecord .entry Entry.check record

def Reference.ofRecord (kind : RecordKind) (record : Json) : Except RecordError Reference :=
  readRecord kind (Reference.check (kind != .account)) record

def Entry.ofRecords (records : List Json) : Except RecordError (List Entry) :=
  records.mapM Entry.ofRecord

def Reference.ofRecords (kind : RecordKind) (records : List Json) :
    Except RecordError (List Reference) :=
  records.mapM (Reference.ofRecord kind)

def Context.ofRecords (accounts categories tags : List Json) : Except RecordError Context := do
  let accounts ← Reference.ofRecords .account accounts
  let categories ← Reference.ofRecords .category categories
  let tags ← Reference.ofRecords .tag tags
  return .ofItems accounts categories tags

end LedgerRules
