import Mathlib.Data.List.Forall2
import LedgerRules.Rules.Compile

/-!
The grammar of rules documents that are given as JSON values: which values belong to it, and what
they describe. Both are said without the reading of documents. A value belongs to the grammar if and
only if there is something that it describes.
-/

namespace LedgerRules

namespace Json

/-- The text that a value stands for in a rule. A whole number with too many digits has none. -/
inductive Says : Json → String → Prop where
  | string (text : String) : Says (.string text) text
  | integer {value : Int} (short : isTooLong value = false) : Says (.integer value) (toString value)
  | double (value : Double) : Says (.double value) value.text

/-! Which values are accepted. -/

def IsText (value : Json) : Prop := ∃ text, value.Says text

def IsStringOrNumber : Json → Prop
  | .string _ | .integer _ | .double _ => True
  | _ => False

def IsTextList (value : Json) : Prop := ∃ items, value = .array items ∧ ∀ item ∈ items, IsText item

def IsKind (value : Json) : Prop := ∃ kind : EntryKind, value.Says kind.text

def IsAmount (value : Json) : Prop :=
  ∃ raw, value.Says raw ∧ ∃ filter, AmountFilter.parse raw = .ok filter

def IsPattern (platform : Platform) (value : Json) : Prop :=
  ∃ text, value.Says text ∧ ∃ pattern, Pattern.compile platform text = .ok pattern

/-- An optional field may be missing or null. -/
def Allows (accepted : Json → Prop) (field : Option Json) : Prop :=
  ∀ value ∈ field, value = .null ∨ accepted value

def Requires (accepted : Json → Prop) (field : Option Json) : Prop :=
  ∃ value ∈ field, accepted value

def IsFilled (field : Option Json) : Prop := ∃ value ∈ field, value ≠ .null

def Fields.HasOnly (fields : Fields) (names : List String) : Prop :=
  ∀ field ∈ fields, field.1 ∈ names

structure IsClauses (platform : Platform) (fields : Fields) : Prop where
  known : fields.HasOnly ["pattern", "type", "account", "amount"]
  pattern : Requires (IsPattern platform) (fields.get? "pattern")
  kind : Allows IsKind (fields.get? "type")
  account : Allows IsText (fields.get? "account")
  amount : Allows IsAmount (fields.get? "amount")
  /-- Amounts are compared without their sign, so that the kind has to give it. -/
  kind_of_amount : IsFilled (fields.get? "amount") → IsFilled (fields.get? "type")

def IsMatch (platform : Platform) (value : Json) : Prop :=
  value.IsPattern platform ∨ ∃ fields : Fields, value = .object fields ∧ IsClauses platform fields

structure IsTransferRule (platform : Platform) (fields : Fields) : Prop where
  known : fields.HasOnly ["match", "description", "transfer"]
  form : Requires (IsMatch platform) (fields.get? "match")
  description : Allows IsText (fields.get? "description")
  account : Requires IsText (fields.get? "transfer")

structure IsEntryRule (platform : Platform) (fields : Fields) : Prop where
  known : fields.HasOnly ["match", "description", "category", "tags"]
  form : Requires (IsMatch platform) (fields.get? "match")
  description : Allows IsText (fields.get? "description")
  category : Allows IsText (fields.get? "category")
  tags : Allows IsTextList (fields.get? "tags")

/-- What has a transfer is a transfer rule, even if the transfer is null. -/
def IsRule (platform : Platform) (value : Json) : Prop :=
  ∃ fields : Fields, value = .object fields ∧
    ((fields.get? "transfer" ≠ none ∧ IsTransferRule platform fields) ∨
      (fields.get? "transfer" = none ∧ IsEntryRule platform fields))

inductive IsEmptyValue : Json → Prop where
  | null : IsEmptyValue .null
  | no : IsEmptyValue (.bool false)
  | integer : IsEmptyValue (.integer 0)
  | double (negative : Bool) : IsEmptyValue (.double (.zero negative))
  | string : IsEmptyValue (.string "")
  | object : IsEmptyValue (.object [])

inductive HasElements : Json → List Json → Prop where
  | nothing : HasElements .null []
  | list (elements : List Json) : HasElements (.array elements) elements
  | rules {fields : Fields} {elements : List Json}
      (found : fields.get? "rules" = some (.array elements)) : HasElements (.object fields) elements
  | empty {fields : Fields} {value : Json} (found : fields.get? "rules" = some value)
      (empty : value.IsEmptyValue) : HasElements (.object fields) []

def IsRulesDocument (platform : Platform) (document : Json) : Prop :=
  ∃ elements, document.HasElements elements ∧ ∀ element ∈ elements, element.IsRule platform

/-! What the accepted values describe. -/

def SaysTexts (value : Json) (texts : List String) : Prop :=
  ∃ items, value = .array items ∧ List.Forall₂ Says items texts

def SaysKind (value : Json) (kind : EntryKind) : Prop := value.Says kind.text

def SaysAmount (value : Json) (filter : AmountFilter) : Prop :=
  ∃ raw, value.Says raw ∧ AmountFilter.parse raw = .ok filter

/-- What an optional field gives: nothing if it is missing or null. -/
inductive Gives {α : Type} (means : Json → α → Prop) : Option Json → Option α → Prop where
  | missing : Gives means none none
  | null : Gives means (some .null) none
  | given {value : Json} {result : α} (meaning : means value result) :
      Gives means (some value) (some result)

structure ClausesDescribe (platform : Platform) (fields : Fields) (matcher : Matcher) : Prop where
  known : fields.HasOnly ["pattern", "type", "account", "amount"]
  text : Requires (·.Says matcher.text) (fields.get? "pattern")
  compiles : Pattern.compile platform matcher.text = .ok matcher.pattern
  kind : Gives SaysKind (fields.get? "type") matcher.kind
  account : Gives Says (fields.get? "account") matcher.account
  amount : Gives SaysAmount (fields.get? "amount") matcher.amount
  kind_of_amount : matcher.amount.isSome → matcher.kind.isSome

inductive DescribesMatcher (platform : Platform) : Json → Matcher → Prop where
  | text {value : Json} {text : String} {pattern : Pattern.Compiled} (means : value.Says text)
      (compiles : Pattern.compile platform text = .ok pattern) :
      DescribesMatcher platform value ⟨text, pattern, none, none, none⟩
  | clauses {fields : Fields} {matcher : Matcher}
      (describe : ClausesDescribe platform fields matcher) :
      DescribesMatcher platform (.object fields) matcher

inductive DescribesAction (fields : Fields) : Action → Prop where
  | transfer {account : String} (known : fields.HasOnly ["match", "description", "transfer"])
      (transferred : Requires (·.Says account) (fields.get? "transfer")) :
      DescribesAction fields (.transfer account)
  | classify {category : Option String} {tags : Option (List String)}
      (known : fields.HasOnly ["match", "description", "category", "tags"])
      (plain : fields.get? "transfer" = none)
      (classified : Gives Says (fields.get? "category") category)
      (tagged : Gives SaysTexts (fields.get? "tags") tags) :
      DescribesAction fields (.classify category tags)

structure FieldsDescribe (platform : Platform) (fields : Fields) (position : Nat) (rule : Rule) :
    Prop where
  matcher : Requires (DescribesMatcher platform · rule.matcher) (fields.get? "match")
  description : Gives Says (fields.get? "description") rule.description
  action : DescribesAction fields rule.action
  position : rule.position = position

/-- An element of a rules document describes the rule at its place. -/
def DescribesRule (platform : Platform) (element : Json × Nat) (rule : Rule) : Prop :=
  ∃ fields : Fields, element.1 = .object fields ∧ FieldsDescribe platform fields element.2 rule

theorem not_says_null (text : String) : ¬Json.null.Says text := nofun

theorem not_saysTexts_null (texts : List String) : ¬Json.null.SaysTexts texts := by
  simp [SaysTexts]

theorem not_saysKind_null (kind : EntryKind) : ¬Json.null.SaysKind kind := not_says_null _

theorem not_saysAmount_null (filter : AmountFilter) : ¬Json.null.SaysAmount filter :=
  fun ⟨raw, means, _⟩ => not_says_null raw means

section Gives

variable {α β : Type} {means : Json → α → Prop} {field : Option Json}

theorem allows_iff {accepted : Json → Prop}
    (same : ∀ {value}, accepted value ↔ ∃ result, means value result) :
    Allows accepted field ↔ ∃ result?, Gives means field result? := by
  constructor
  · intro allowed
    cases field with
    | none => exact ⟨none, .missing⟩
    | some value =>
        rcases allowed value rfl with rfl | meaning
        · exact ⟨none, .null⟩
        · obtain ⟨result, meaning⟩ := same.mp meaning
          exact ⟨some result, .given meaning⟩
  · rintro ⟨result?, gives⟩ value member
    cases gives with
    | missing => cases member
    | null => exact .inl (Option.some.inj member).symm
    | given meaning =>
        obtain rfl := Option.some.inj member
        exact .inr (same.mpr ⟨_, meaning⟩)

/-- What is made of the value of an optional field is what the field gives in the end. -/
theorem gives_rel_iff {relation : α → β → Prop} {result? : Option β} :
    (∃ middle, Gives means field middle ∧ Option.Rel relation middle result?) ↔
      Gives (fun value result => ∃ middle, means value middle ∧ relation middle result) field
        result? := by
  constructor
  · rintro ⟨middle, gives, related⟩
    cases gives with
    | missing => cases related; exact .missing
    | null => cases related; exact .null
    | given meaning =>
        cases related with
        | some related => exact .given ⟨_, meaning, related⟩
  · intro gives
    cases gives with
    | missing => exact ⟨none, .missing, .none⟩
    | null => exact ⟨none, .null, .none⟩
    | given meaning =>
        obtain ⟨middle, means, related⟩ := meaning
        exact ⟨some middle, .given means, .some related⟩

theorem isFilled_iff {result? : Option α} (gives : Gives means field result?)
    (filled : ∀ result, ¬means .null result) : IsFilled field ↔ result?.isSome := by
  cases gives with
  | missing => simp [IsFilled]
  | null => simp [IsFilled]
  | @given value result meaning =>
      have other : value ≠ .null := by
        rintro rfl
        exact filled result meaning
      simp [IsFilled, other]

end Gives

theorem isAmount_iff {value : Json} : IsAmount value ↔ ∃ filter, value.SaysAmount filter := by
  constructor
  · rintro ⟨raw, means, filter, parsed⟩
    exact ⟨filter, raw, means, parsed⟩
  · rintro ⟨filter, raw, means, parsed⟩
    exact ⟨raw, means, filter, parsed⟩

theorem isTextList_iff {value : Json} : IsTextList value ↔ ∃ texts, value.SaysTexts texts := by
  have each {items : List Json} :
      (∀ item ∈ items, IsText item) ↔ ∃ texts, List.Forall₂ Says items texts := by
    induction items with
    | nil => simp
    | cons item rest ih =>
        simp only [List.forall_mem_cons, ih, List.forall₂_cons_left_iff]
        constructor
        · rintro ⟨⟨text, means⟩, texts, later⟩
          exact ⟨text :: texts, text, texts, means, later, rfl⟩
        · rintro ⟨_, text, texts, means, later, rfl⟩
          exact ⟨⟨text, means⟩, texts, later⟩
  constructor
  · rintro ⟨items, rfl, texts⟩
    obtain ⟨texts, means⟩ := each.mp texts
    exact ⟨texts, items, rfl, means⟩
  · rintro ⟨texts, items, rfl, means⟩
    exact ⟨items, rfl, each.mpr ⟨texts, means⟩⟩

section Described

variable {platform : Platform}

theorem isClauses_iff {fields : Fields} :
    IsClauses platform fields ↔ ∃ matcher, ClausesDescribe platform fields matcher := by
  constructor
  · intro clauses
    obtain ⟨value, given, text, means, pattern, compiles⟩ := clauses.pattern
    obtain ⟨kind, kindGiven⟩ := (allows_iff Iff.rfl).mp clauses.kind
    obtain ⟨account, accountGiven⟩ := (allows_iff Iff.rfl).mp clauses.account
    obtain ⟨amount, amountGiven⟩ := (allows_iff isAmount_iff).mp clauses.amount
    refine ⟨⟨text, pattern, kind, account, amount⟩, clauses.known, ⟨value, given, means⟩, compiles,
      kindGiven, accountGiven, amountGiven, ?_⟩
    intro filtered
    apply (isFilled_iff kindGiven not_saysKind_null).mp
    exact clauses.kind_of_amount ((isFilled_iff amountGiven not_saysAmount_null).mpr filtered)
  · rintro ⟨matcher, describe⟩
    obtain ⟨value, given, means⟩ := describe.text
    refine ⟨describe.known, ⟨value, given, _, means, _, describe.compiles⟩,
      (allows_iff Iff.rfl).mpr ⟨_, describe.kind⟩, (allows_iff Iff.rfl).mpr ⟨_, describe.account⟩,
      (allows_iff isAmount_iff).mpr ⟨_, describe.amount⟩, ?_⟩
    intro filled
    apply (isFilled_iff describe.kind not_saysKind_null).mpr
    exact describe.kind_of_amount ((isFilled_iff describe.amount not_saysAmount_null).mp filled)

theorem isMatch_iff {value : Json} :
    value.IsMatch platform ↔ ∃ matcher, DescribesMatcher platform value matcher := by
  constructor
  · rintro (⟨text, means, pattern, compiles⟩ | ⟨fields, rfl, clauses⟩)
    · exact ⟨_, .text means compiles⟩
    · obtain ⟨matcher, describe⟩ := isClauses_iff.mp clauses
      exact ⟨matcher, .clauses describe⟩
  · rintro ⟨matcher, describes⟩
    cases describes with
    | text means compiles => exact .inl ⟨_, means, _, compiles⟩
    | clauses describe => exact .inr ⟨_, rfl, isClauses_iff.mpr ⟨_, describe⟩⟩

theorem isRule_iff {element : Json} (position : Nat) :
    element.IsRule platform ↔ ∃ rule, DescribesRule platform (element, position) rule := by
  constructor
  · rintro ⟨fields, rfl, ⟨_, transfer⟩ | ⟨plain, entry⟩⟩
    · obtain ⟨form, found, isMatch⟩ := transfer.form
      obtain ⟨matcher, describes⟩ := isMatch_iff.mp isMatch
      obtain ⟨description, described⟩ := (allows_iff Iff.rfl).mp transfer.description
      obtain ⟨value, given, account, means⟩ := transfer.account
      exact ⟨⟨matcher, description, .transfer account, position⟩, fields, rfl,
        ⟨form, found, describes⟩, described, .transfer transfer.known ⟨value, given, means⟩, rfl⟩
    · obtain ⟨form, found, isMatch⟩ := entry.form
      obtain ⟨matcher, describes⟩ := isMatch_iff.mp isMatch
      obtain ⟨description, described⟩ := (allows_iff Iff.rfl).mp entry.description
      obtain ⟨category, classified⟩ := (allows_iff Iff.rfl).mp entry.category
      obtain ⟨tags, tagged⟩ := (allows_iff isTextList_iff).mp entry.tags
      exact ⟨⟨matcher, description, .classify category tags, position⟩, fields, rfl,
        ⟨form, found, describes⟩, described, .classify entry.known plain classified tagged, rfl⟩
  · rintro ⟨⟨matcher, description, action, _⟩, fields, rfl, ⟨form, found, describes⟩, described,
      action, _⟩
    have isMatch : Requires (IsMatch platform) (fields.get? "match") :=
      ⟨form, found, isMatch_iff.mpr ⟨matcher, describes⟩⟩
    have isText := (allows_iff Iff.rfl).mpr ⟨_, described⟩
    refine ⟨fields, rfl, ?_⟩
    cases action with
    | transfer known transferred =>
        obtain ⟨value, given, means⟩ := transferred
        refine .inl ⟨?_, known, isMatch, isText, value, given, _, means⟩
        rw [Option.mem_def.mp given]
        exact Option.some_ne_none value
    | classify known plain classified tagged =>
        exact .inr ⟨plain, known, isMatch, isText, (allows_iff Iff.rfl).mpr ⟨_, classified⟩,
          (allows_iff isTextList_iff).mpr ⟨_, tagged⟩⟩

end Described

end Json

end LedgerRules
