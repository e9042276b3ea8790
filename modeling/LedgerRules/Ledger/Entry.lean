import LedgerRules.Calendar.Date
import LedgerRules.Json.Basic
import LedgerRules.Text.LineBreak

/-!
Ledger entries. An entry keeps the fields of its record that have no meaning here, at every level,
so that the whole record can be written back.
-/

namespace LedgerRules

inductive EntryKind where
  | expense
  | income
  deriving DecidableEq, Repr

namespace EntryKind

def text : EntryKind → String
  | .expense => "expense"
  | .income => "income"

def ofText? (text : String) : Option EntryKind :=
  if text = "expense" then some .expense else if text = "income" then some .income else none

end EntryKind

structure Currency where
  code : String
  unknown : Json.Fields

structure LinkedTransaction where
  id : Option String
  account : Option String
  currency : Option Currency
  unknown : Json.Fields

def LinkedTransaction.empty : LinkedTransaction := ⟨none, none, none, []⟩

structure Entry where
  id : String
  description : Option String
  amount : Double
  currency : Currency
  date : Date
  account : String
  category : Option String
  tags : Option (List String)
  transaction : Option LinkedTransaction
  unknown : Json.Fields

namespace Entry

/-- Negative amounts are expenses. -/
def kind (entry : Entry) : EntryKind := if entry.amount.isNegative then .expense else .income

def shownDescription (entry : Entry) : String := Text.singleLine (entry.description.getD "")

end Entry

end LedgerRules
