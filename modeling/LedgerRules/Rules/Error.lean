import LedgerRules.Ledger.Field
import LedgerRules.Pattern.Fault

/-!
What can be wrong with a rules document.
-/

namespace LedgerRules

inductive ConfigurationError where
  | fileMissing (path : String)
  | fileUnreadable (path : String)
  | documentForm
  /-- A rule that is no mapping; rules are counted from zero. -/
  | ruleForm (position : Nat) (found : String)
  | field (position : Nat) (error : FieldError)
  | matchType (position : Nat) (found : String)
  | amountWithoutType (position : Nat)
  | amountForm (raw : String)
  | amountComparator (symbol : String)
  | amountMagnitude (raw : String)
  | amountSign (raw : String)
  | pattern (text : String) (fault : Pattern.Fault) (position : Option Nat)
  deriving DecidableEq, Repr

namespace ConfigurationError

def ruleLabel (position : Nat) : String := "Rule #" ++ toString (position + 1)

def fieldText (path : List Step) : String :=
  let text := String.intercalate "." (path.map Step.text)
  if text.isEmpty then "rule" else text

def fieldMessage (position : Nat) (error : FieldError) : String :=
  let detail := fieldText error.path ++ ": " ++ error.fault.description
  match error.fault with
  | .missing => ruleLabel position ++ " is neither an entry rule nor a transfer rule: " ++ detail
  | .unknownField =>
      ruleLabel position ++ " is neither an entry rule nor a transfer rule: " ++ detail
  | _ => ruleLabel position ++ ": invalid " ++ detail

def message : ConfigurationError → String
  | .fileMissing path => "Rules file not found: " ++ path
  | .fileUnreadable path => "Rules file " ++ path ++ " is not valid YAML"
  | .documentForm =>
      "Rules document must be a list of rules (or a mapping with a 'rules' list)."
  | .ruleForm position found =>
      ruleLabel position ++ " must be a mapping, got " ++ found ++ "."
  | .field position error => fieldMessage position error
  | .matchType position found =>
      ruleLabel position ++ ": match type must be 'expense' or 'income', got " ++
        Text.quoted found ++ "."
  | .amountWithoutType position =>
      ruleLabel position ++ ": an amount filter requires a match type."
  | .amountForm raw =>
      "Invalid amount filter " ++ Text.quoted raw ++ "; expected '<comparator> <magnitude>'."
  | .amountComparator symbol =>
      "Unknown amount comparator " ++ Text.quoted symbol ++
        "; expected one of =, >, >=, <, <=."
  | .amountMagnitude raw => "Invalid amount magnitude in " ++ Text.quoted raw ++ "."
  | .amountSign raw =>
      "Amount magnitude in " ++ Text.quoted raw ++ " must be a non-negative number."
  | .pattern text fault position =>
      "Invalid match pattern " ++ Text.quoted text ++ ": " ++
        Pattern.faultMessage text fault position

end ConfigurationError

inductive RulesError where
  | configuration (error : ConfigurationError)
  | repetitionTooLarge
  | repetitionTooLong (digits : Nat)
  | codeTooLarge
  | kindsIncompatible
  | patternTooDeep
  | integerTooLong
  deriving DecidableEq, Repr

def RulesError.message : RulesError → String
  | .configuration error => error.message
  | .repetitionTooLarge => Pattern.Refusal.repetitionTooLarge.message ""
  | .repetitionTooLong digits => (Pattern.Refusal.repetitionTooLong digits).message ""
  | .codeTooLarge => Pattern.Refusal.codeTooLarge.message ""
  | .kindsIncompatible => Pattern.Refusal.kindsIncompatible.message ""
  | .patternTooDeep => Pattern.Refusal.tooDeep.message ""
  | .integerTooLong => tooLongToWrite

end LedgerRules
