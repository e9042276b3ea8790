import LedgerRules.Rules.Rule
import LedgerRules.Document.Literal

/-!
What a rule would change in an entry, field by field, and the change itself. A field that already
is as the rule wants it is not part of the difference; an empty difference changes nothing.
-/

namespace LedgerRules

structure Side (α : Type) where
  id : α
  shown : α
  deriving DecidableEq, Repr

structure Change (α β : Type) where
  old : α
  new : β
  deriving DecidableEq, Repr

abbrev ReferenceChange := Change (Side (Option String)) (Side String)

abbrev ReferencesChange := Change (Side (List String)) (Side (List String))

structure EntryDiff where
  description : Option (Change String String) := none
  category : Option ReferenceChange := none
  tags : Option ReferencesChange := none
  account : Option ReferenceChange := none
  deriving DecidableEq, Repr

namespace EntryDiff

def isEmpty (diff : EntryDiff) : Bool :=
  diff.description.isNone && diff.category.isNone && diff.tags.isNone && diff.account.isNone

/-- The changes of both; of two changes to one field the first counts. -/
def merge (first second : EntryDiff) : EntryDiff where
  description := first.description.or second.description
  category := first.category.or second.category
  tags := first.tags.or second.tags
  account := first.account.or second.account

theorem merge_classified (description : Option (Change String String))
    (category : Option ReferenceChange) (tags : Option ReferencesChange) :
    (({ description } : EntryDiff).merge { category }).merge { tags } =
      { description, category, tags } := by
  simp [merge]

theorem merge_transferred (description : Option (Change String String))
    (account : Option ReferenceChange) :
    ({ description } : EntryDiff).merge { account } = { description, account } := by
  simp [merge]

end EntryDiff

def descriptionChange (replacement : Option String) (entry : Entry) :
    Option (Change String String) :=
  match replacement with
  | none => none
  | some text =>
      if Text.singleLine text = entry.shownDescription then none
      else some ⟨entry.shownDescription, text⟩

def oldSide (catalog : Catalog) (id : Option String) : Side (Option String) :=
  ⟨id, id.map catalog.nameOf⟩

def categoryChange (name : Option String) (context : Context) (entry : Entry) :
    Except ReferenceError (Option ReferenceChange) := do
  match name with
  | none => return none
  | some name =>
      let target ← context.categories.resolve name (some entry.kind.text)
      if entry.category = some target then return none
      return some ⟨oldSide context.categories entry.category, ⟨target, name⟩⟩

def haveSameMembers (left right : List String) : Bool :=
  left.all right.contains && right.all left.contains

def tagsChange (names : Option (List String)) (context : Context) (entry : Entry) :
    Except ReferenceError (Option ReferencesChange) := do
  match names with
  | none => return none
  | some names =>
      let targets ← names.mapM fun name => context.tags.resolve name (some entry.kind.text)
      let current := entry.tags.getD []
      if haveSameMembers targets current then return none
      return some ⟨⟨current, current.map context.tags.nameOf⟩, ⟨targets, names⟩⟩

/-- An entry is on an account if either leg of it is. -/
def accountChange (name : String) (context : Context) (entry : Entry) :
    Except ReferenceError (Option ReferenceChange) := do
  let target ← context.accounts.resolve name none
  let linked := entry.transaction.bind (·.account)
  if linked = some target ∨ entry.account = target then return none
  return some ⟨oldSide context.accounts linked, ⟨target, name⟩⟩

namespace Rule

def diff (rule : Rule) (context : Context) (entry : Entry) : Except ReferenceError EntryDiff := do
  let described : EntryDiff := { description := descriptionChange rule.description entry }
  match rule.action with
  | .classify category tags =>
      let category ← categoryChange category context entry
      let tags ← tagsChange tags context entry
      return (described.merge { category }).merge { tags }
  | .transfer account =>
      let account ← accountChange account context entry
      return described.merge { account }

end Rule

/-- The linked transaction on an account; it takes the currency of the entry if it has none. -/
def LinkedTransaction.onAccount (transaction : LinkedTransaction) (account : String)
    (currency : Currency) : LinkedTransaction :=
  { transaction with
    account := some account
    currency := some (transaction.currency.getD currency) }

namespace EntryDiff

/-- The entry with the new values of all changed fields. A transfer has neither category nor
tags. -/
def apply (diff : EntryDiff) (entry : Entry) : Entry :=
  let entry :=
    match diff.description with
    | some change => { entry with description := some change.new }
    | none => entry
  let entry :=
    match diff.category with
    | some change => { entry with category := some change.new.id }
    | none => entry
  let entry :=
    match diff.tags with
    | some change => { entry with tags := some change.new.id }
    | none => entry
  match diff.account with
  | some change =>
      let transaction := entry.transaction.getD LinkedTransaction.empty
      { entry with
        transaction := some (transaction.onAccount change.new.id entry.currency)
        category := none
        tags := none }
  | none => entry

def fieldNames (diff : EntryDiff) : List String :=
  (if diff.description.isSome then ["description"] else []) ++
    (if diff.category.isSome then ["category"] else []) ++
    (if diff.tags.isSome then ["tags"] else []) ++
    (if diff.account.isSome then ["account"] else [])

end EntryDiff

def shownName : Option String → String
  | none => "(none)"
  | some name => Text.quoted name

def shownNames (names : List String) : String := "[" ++ String.intercalate ", " names ++ "]"

def changeLine (field old new : String) : String := "  " ++ field ++ ": " ++ old ++ " -> " ++ new

namespace EntryDiff

def lines (diff : EntryDiff) : List String :=
  let description := diff.description.map fun change =>
    changeLine "description" (Text.quoted change.old) (Text.quoted change.new)
  let category := diff.category.map fun change =>
    changeLine "category" (shownName change.old.shown) (Text.quoted change.new.shown)
  let tags := diff.tags.map fun change =>
    changeLine "tags" (shownNames change.old.shown) (shownNames change.new.shown)
  let account := diff.account.map fun change =>
    changeLine "account" (shownName change.old.shown) (Text.quoted change.new.shown)
  description.toList ++ category.toList ++ tags.toList ++ account.toList

end EntryDiff

end LedgerRules
