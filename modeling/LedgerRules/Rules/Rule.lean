import LedgerRules.Ledger.Catalog
import LedgerRules.Pattern.Search
import LedgerRules.Rules.AmountFilter

/-!
Rules: what an entry has to look like, and what it is to become.
-/

namespace LedgerRules

structure Matcher where
  text : String
  pattern : Pattern.Compiled
  kind : Option EntryKind
  account : Option String
  amount : Option AmountFilter

namespace Matcher

def ofPattern (platform : Platform) (text : String) (kind : Option EntryKind)
    (account : Option String) (amount : Option AmountFilter) : Except RulesError Matcher :=
  match Pattern.compile platform text with
  | .ok pattern => .ok ⟨text, pattern, kind, account, amount⟩
  | .error (.malformed fault position) => .error (.configuration (.pattern text fault position))
  | .error .repetitionTooLarge => .error .repetitionTooLarge
  | .error (.repetitionTooLong digits) => .error (.repetitionTooLong digits)
  | .error .codeTooLarge => .error .codeTooLarge
  | .error .kindsIncompatible => .error .kindsIncompatible
  | .error .tooDeep => .error .patternTooDeep

/-- The clauses are tried in order, and the first that fails decides. An account name that does not
stand for exactly one account is an error. -/
def accepts (matcher : Matcher) (context : Context) (entry : Entry) :
    Except ReferenceError Bool := do
  if !matcher.pattern.isFoundIn entry.shownDescription then return false
  if !matcher.kind.all (· == entry.kind) then return false
  if let some name := matcher.account then
    if (← context.accounts.resolve name none) ≠ entry.account then return false
  return matcher.amount.all (·.accepts entry.amount)

end Matcher

inductive Action where
  | classify (category : Option String) (tags : Option (List String))
  | transfer (account : String)
  deriving DecidableEq, Repr

structure Rule where
  matcher : Matcher
  description : Option String
  action : Action
  position : Nat

structure RuleSet where
  rules : List Rule
  fingerprint : String

end LedgerRules
