import LedgerRules.Document.Canonical
import LedgerRules.Rules.Rule

/-!
Rules from a document. A rule with a `transfer` field turns entries into transfers, any other rule
classifies them. The first fault of the first faulty rule is reported.
-/

namespace LedgerRules

structure MatchDefinition where
  pattern : String
  kind : Option String := none
  account : Option String := none
  amount : Option String := none

inductive MatchForm where
  | text (pattern : String)
  | clauses (definition : MatchDefinition)

namespace Definition

open Document (Entries)

def text : Document → Checked String
  | .scalar (.string text) => .ok text
  | .scalar (.integer value) =>
      if isTooLong value then .error [⟨[], .integerTooLong⟩] else .ok (toString value)
  | .scalar (.double value) => .ok value.text
  | .scalar (.bytes content) => (Utf8.decode? content).mapError fun _ => [⟨[], .encodedText⟩]
  | _ => .error [⟨[], .text⟩]

def textList : Document → Checked (List String)
  | .list items => Checked.items text 0 items
  | .tuple items => Checked.items text 0 items
  | .set members => Checked.items (fun member => text (.scalar member)) 0 members
  | _ => .error [⟨[], .list⟩]

def optional {α : Type} (check : Document → Checked α) : Document → Checked (Option α)
  | .scalar .null => .ok none
  | value => (check value).map some

def required {α : Type} (entries : Entries) (name : String) (check : Document → Checked α) :
    Checked α :=
  match entries.get? name with
  | some value => Checked.within (.field name) (check value)
  | none => .error [⟨[.field name], .missing⟩]

def absent {α : Type} (entries : Entries) (name : String) (check : Document → Checked α) :
    Checked (Option α) :=
  match entries.get? name with
  | some value => Checked.within (.field name) (optional check value)
  | none => .ok none

def keyText (key : Scalar) : String :=
  match key with
  | .bool value => if value then "1" else "0"
  | other => other.literal

def keyError? (known : List String) (key : Scalar) : Option FieldError :=
  match key with
  | .string name => if known.contains name then none else some ⟨[.field name], .unknownField⟩
  | .bytes content =>
      match Utf8.decode? content with
      | .ok name =>
          if known.contains name then none else some ⟨[.field (keyText key)], .unknownField⟩
      | .error _ => some ⟨[.field (keyText key)], .key⟩
  | _ => some ⟨[.field (keyText key)], .key⟩

def keyErrors (known : List String) (entries : Entries) : List FieldError :=
  let given := known.filter fun name => (entries.get? name).isSome
  entries.filterMap fun entry => keyError? given entry.1

def clauses (entries : Entries) : Checked MatchDefinition :=
  let pattern := required entries "pattern" text
  let kind := absent entries "type" text
  let account := absent entries "account" text
  let amount := absent entries "amount" text
  let unknown := keyErrors ["pattern", "type", "account", "amount"] entries
  match pattern, kind, account, amount, unknown with
  | .ok pattern, .ok kind, .ok account, .ok amount, [] => .ok { pattern, kind, account, amount }
  | _, _, _, _, _ =>
      .error (pattern.errors ++ kind.errors ++ account.errors ++ amount.errors ++ unknown)

/-- Whether a number was met that has too many digits to be written, which ends the check. -/
def isEnded (errors : List FieldError) : Bool :=
  errors.any fun error => error.fault == .integerTooLong

/-- A match is a text or a mapping of clauses. A value that is neither is faulted as a text. -/
def matchForm (value : Document) : Checked MatchForm :=
  match Checked.within (.field "str") (text value), value with
  | .ok pattern, _ => .ok (.text pattern)
  | .error errors, .mapping entries =>
      match clauses entries with
      | .ok definition => .ok (.clauses definition)
      | .error inner => .error (if isEnded inner then inner else errors)
  | .error errors, _ => .error errors

structure RuleDefinition where
  matchForm : MatchForm
  description : Option String
  action : Action

def transferRule (entries : Entries) : Checked RuleDefinition :=
  let form := required entries "match" matchForm
  let description := absent entries "description" text
  let account := required entries "transfer" text
  match form, description, account, keyErrors ["match", "description", "transfer"] entries with
  | .ok form, .ok description, .ok account, [] => .ok ⟨form, description, .transfer account⟩
  | _, _, _, keyErrors =>
      .error (form.errors ++ description.errors ++ account.errors ++ keyErrors)

def entryRule (entries : Entries) : Checked RuleDefinition :=
  let form := required entries "match" matchForm
  let description := absent entries "description" text
  let category := absent entries "category" text
  let tags := absent entries "tags" textList
  match form, description, category, tags,
    keyErrors ["match", "description", "category", "tags"] entries with
  | .ok form, .ok description, .ok category, .ok tags, [] =>
      .ok ⟨form, description, .classify category tags⟩
  | _, _, _, _, keyErrors =>
      .error
        (form.errors ++ description.errors ++ category.errors ++ tags.errors ++ keyErrors)

def rule (entries : Entries) : Checked RuleDefinition :=
  if (entries.get? "transfer").isSome then transferRule entries else entryRule entries

end Definition

open Definition

/-- The kind that a match asks for, and its amount filter, which needs a kind beside it: amounts are
compared without their sign. -/
def MatchDefinition.compile (platform : Platform) (definition : MatchDefinition)
    (position : Nat) : Except RulesError Matcher := do
  let kind ←
    match definition.kind with
    | none => pure none
    | some text =>
        match EntryKind.ofText? text with
        | some kind => pure (some kind)
        | none => throw (.configuration (.matchType position text))
  let amount ←
    match definition.amount with
    | none => pure none
    | some raw =>
        if kind.isNone then throw (.configuration (.amountWithoutType position))
        else some <$> (AmountFilter.parse raw).mapError .configuration
  Matcher.ofPattern platform definition.pattern kind definition.account amount

def MatchForm.compile (platform : Platform) (form : MatchForm) (position : Nat) :
    Except RulesError Matcher :=
  match form with
  | .text pattern => Matcher.ofPattern platform pattern none none none
  | .clauses definition => definition.compile platform position

/-- The first error of a rule is told, unless a number has ended the check. -/
def Rule.refusal (position : Nat) (errors : List FieldError) : RulesError :=
  if isEnded errors then .integerTooLong
  else
    match errors with
    | error :: _ => .configuration (.field position error)
    | [] => .configuration .documentForm

def Rule.ofDocument (platform : Platform) (position : Nat) (document : Document) :
    Except RulesError Rule :=
  match document with
  | .mapping entries =>
      match Definition.rule entries with
      | .ok definition =>
          (definition.matchForm.compile platform position).map fun matcher =>
            ⟨matcher, definition.description, definition.action, position⟩
      | .error errors => .error (Rule.refusal position errors)
  | other => .error (.configuration (.ruleForm position other.kindName))

/-- The elements of a rules document: a list, or a mapping with a list of rules. Nothing at all
stands for no rules. -/
def ruleDocuments (document : Document) : Except ConfigurationError (List Document) :=
  let listed (document : Document) : Except ConfigurationError (List Document) :=
    match document with
    | .list items => .ok items
    | _ => .error .documentForm
  match document with
  | .scalar .null => .ok []
  | .mapping entries =>
      match Document.Entries.get? entries "rules" with
      | some rules => if rules.isEmptyValue then .ok [] else listed rules
      | none => .error .documentForm
  | other => listed other

def compileFrom (platform : Platform) :
    (position : Nat) → List Document → Except RulesError (List Rule)
  | _, [] => .ok []
  | position, document :: rest => do
      let rule ← Rule.ofDocument platform position document
      let rules ← compileFrom platform (position + 1) rest
      return rule :: rules

def compileRules (platform : Platform) (document : Document) : Except RulesError (List Rule) := do
  let documents ← (ruleDocuments document).mapError .configuration
  compileFrom platform 0 documents

end LedgerRules
