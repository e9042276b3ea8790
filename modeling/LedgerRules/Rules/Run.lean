import LedgerRules.Number.Text
import LedgerRules.Rules.Diff

/-!
Rules over entries: the first rule that accepts an entry decides what changes in it.
-/

namespace LedgerRules

/-- The first rule that accepts an entry. An error of a rule before it comes first. -/
def firstMatch (rules : List Rule) (context : Context) (entry : Entry) :
    Except ReferenceError (Option Rule) :=
  match rules with
  | [] => .ok none
  | rule :: rest => do
      if ← rule.matcher.accepts context entry then return some rule
      firstMatch rest context entry

structure EntryChange where
  entry : Entry
  rule : Rule
  diff : EntryDiff

namespace EntryChange

def result (change : EntryChange) : Entry := change.diff.apply change.entry

def text (change : EntryChange) : String :=
  let entry := change.entry
  let heading := entry.date.text ++ "  " ++ entry.amount.textWithPlaces 2 ++ " " ++
    entry.currency.code ++ "  " ++ entry.shownDescription
  String.intercalate "\n" (heading :: change.diff.lines)

end EntryChange

def changeOf? (rules : List Rule) (context : Context) (entry : Entry) :
    Except ReferenceError (Option EntryChange) := do
  match ← firstMatch rules context entry with
  | none => return none
  | some rule =>
      let diff ← rule.diff context entry
      return if diff.isEmpty then none else some ⟨entry, rule, diff⟩

def changes (rules : List Rule) (context : Context) :
    List Entry → Except ReferenceError (List EntryChange)
  | [] => .ok []
  | entry :: rest => do
      let change? ← changeOf? rules context entry
      let others ← changes rules context rest
      return change?.toList ++ others

end LedgerRules
