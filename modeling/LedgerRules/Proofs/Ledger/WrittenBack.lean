import LedgerRules.Proofs.Ledger.Checked
import LedgerRules.Proofs.Ledger.Rewriting

/-!
What a record becomes when the entry that is read from it is written. The fields that an entry knows
are written in their normal form, and an optional one that is null is left out. All other fields are
written as they were given, at every level, but for those of a linked transaction that are null:
these are lost.
-/

namespace LedgerRules

open Json.Fields

namespace Json

/-- The text that the value of a text field stands for. -/
inductive Means : Json → String → Prop where
  | string (text : String) : Means (.string text) text
  | integer (value : Int) : Means (.integer value) (toString value)
  | double (value : Double) : Means (.double value) value.text

def NormalText (given written : Json) : Prop := ∃ text, given.Means text ∧ written = .string text

def NormalTexts (given written : Json) : Prop :=
  ∃ items texts, given = .array items ∧ written = .array (texts.map .string) ∧
    List.Forall₂ Means items texts

def NormalNumber (given written : Json) : Prop :=
  ∃ value, Field.number given = .ok value ∧ written = .double value

def NormalDate (given written : Json) : Prop :=
  ∃ date, Field.date given = .ok date ∧ written = .string date.text

def Required (normal : Json → Json → Prop) (given written : Option Json) : Prop :=
  ∃ value form, given = some value ∧ written = some form ∧ normal value form

/-- An optional field is written if it is given and not null. -/
inductive Optional (normal : Json → Json → Prop) : Option Json → Option Json → Prop where
  | absent : Optional normal none none
  | null : Optional normal (some .null) none
  | given {value form : Json} (normalized : normal value form) :
      Optional normal (some value) (some form)

section Fields

variable {α : Type} {fields : Fields} {name : String} {check : Json → Checked α}
  {normal : Json → Json → Prop} (encode : α → Json)

end Fields

end Json

open Json

namespace Currency

structure WrittenBack (given written : Json.Fields) : Prop where
  code : ∃ code, given.get? "code" = some (.string code) ∧ written.get? "code" = some (.string code)
  unknown : written.others knownFields = given.others knownFields

def Normal (given written : Json) : Prop :=
  ∃ fields others, given = .object fields ∧ written = .object others ∧ WrittenBack fields others

end Currency

namespace LinkedTransaction

/-- A linked transaction loses its null fields, the unknown ones with the known ones. -/
structure WrittenBack (given written : Json.Fields) : Prop where
  id : Optional NormalText (given.get? "id") (written.get? "id")
  account : Optional NormalText (given.get? "account") (written.get? "account")
  currency : Optional Currency.Normal (given.get? "currency") (written.get? "currency")
  unknown : written.others knownFields =
    (given.others knownFields).filter fun field => !field.2.isNull

def Normal (given written : Json) : Prop :=
  ∃ fields others, given = .object fields ∧ written = .object others ∧ WrittenBack fields others

end LinkedTransaction

namespace Entry

structure WrittenBack (given written : Json.Fields) : Prop where
  id : Required NormalText (given.get? "id") (written.get? "id")
  description : Optional NormalText (given.get? (descriptionField given)) (written.get? "desc")
  amount : Required NormalNumber (given.get? "amount") (written.get? "amount")
  currency : Required Currency.Normal (given.get? "currency") (written.get? "currency")
  date : Required NormalDate (given.get? "date") (written.get? "date")
  account : Required NormalText (given.get? "account") (written.get? "account")
  category : Optional NormalText (given.get? "category") (written.get? "category")
  tags : Optional NormalTexts (given.get? "tags") (written.get? "tags")
  transaction :
    Optional LinkedTransaction.Normal (given.get? "transaction") (written.get? "transaction")
  unknown : written.others writtenFields = given.others (knownFields given)

end Entry

/-! A record with an unknown field at each level, all of them null but the innermost. -/

namespace Memo

def given : Json.Fields :=
  [("id", .integer 7), ("desc", .null), ("amount", .integer (-5)),
    ("currency", .object [("code", .string "EUR"), ("rate", .null)]),
    ("date", .string "2024-01-10"), ("account", .string "cash"), ("deleted", .null),
    ("transaction", .object [("account", .string "savings"), ("memo", .null),
      ("currency", .object [("code", .string "EUR"), ("rates", .array [.null])])])]

def entry : Entry := (Entry.ofRecord (.object given)).toOption.getD Savings.entry

end Memo

end LedgerRules
