import LedgerRules.Proofs.Document.Alike
import LedgerRules.Proofs.Ledger.Checked
import LedgerRules.Rules.Compile

/-!
The rules of documents that are written alike. Such documents may differ in the order of keys, in
dates that are given as strings, and in numbers, truth values and nothing as keys. Each of these
differences is refused when rules are made of the document, or the rules do not depend on it.
-/

namespace LedgerRules

open Text

/-! The text of a scalar, told from its shape. -/

/-- Where text is expected, numbers that are not finite are spoken of by other words than those they
are written as. -/
def spoken (word : String) : String :=
  if word = "NaN" then "nan"
  else if word = "Infinity" then "inf"
  else if word = "-Infinity" then "-inf"
  else word

theorem spoken_numeral {word : String} (numeral : IsNumeral word) : spoken word = word := by
  have other : word ≠ "NaN" ∧ word ≠ "Infinity" ∧ word ≠ "-Infinity" := by
    refine ⟨?_, ?_, ?_⟩ <;> rintro rfl <;> revert numeral <;> decide
  simp only [spoken, other, if_false]

theorem Double.text_eq_spoken (value : Double) :
    value.text = spoken (value.textWith jsonWords) := by
  cases value with
  | finite negative rank =>
      rw [spoken_numeral (isNumeral_finite jsonWords negative rank)]
      rfl
  | infinite negative => cases negative <;> rfl
  | notANumber => rfl

def Shape.content? : Shape → Option String
  | .word letters => some (spoken letters.text)
  | .text content => some content
  | _ => none

namespace Document

theorem content_of_text {value : Scalar} (textual : ∀ content, value ≠ .bytes content)
    {text : String} (read : Definition.text (.scalar value) = .ok text) :
    value.shape.content? = some text := by
  cases value with
  | string given => exact congrArg some (Except.ok.inj read)
  | integer number =>
      simp only [Definition.text] at read
      split at read
      · cases read
      · obtain rfl := Except.ok.inj read
        exact congrArg some (spoken_numeral (.of_int number))
  | double number =>
      rw [← Except.ok.inj read]
      exact congrArg some number.text_eq_spoken.symm
  | bytes content => exact absurd rfl (textual content)
  | _ => cases read

/-- No other scalar is written like nothing. -/
theorem eq_null_of_shape {value : Scalar} (same : value.shape = Scalar.null.shape) :
    value = .null := by
  have word {letters : Word} (same : Shape.word letters = Scalar.null.shape) :
      letters.text = "null" := congrArg Word.text (Shape.word.inj same)
  have unnumeral : ¬IsNumeral "null" := by decide
  cases value with
  | null => rfl
  | bool value => cases value <;> exact absurd (word same) (by decide)
  | integer number => exact absurd (word same ▸ IsNumeral.of_int number) unnumeral
  | double number =>
      cases number with
      | finite negative rank =>
          exact absurd (word same ▸ Double.isNumeral_finite Double.jsonWords negative rank)
            unnumeral
      | infinite negative => cases negative <;> exact absurd (word same) (by decide)
      | notANumber => exact absurd (word same) (by decide)
  | _ => cases same

end Document

open Document

/-- Documents of one shape that are both accepted give the same result. -/
def Determined {ε α : Type} (check : Document → Except ε α) : Prop :=
  ∀ {document other : Document} {result resultToo : α}, Alike document other →
    check document = .ok result → check other = .ok resultToo → result = resultToo

namespace Definition

theorem determined_text : Determined text := by
  intro document other result resultToo alike read readToo
  cases document with
  | scalar value =>
      cases other with
      | scalar otherValue =>
          have textual {value : Scalar} (plain : (Document.scalar value).IsPlain) :
              ∀ content, value ≠ .bytes content := by
            cases plain with
            | scalar textual => exact textual
          have content := content_of_text (textual alike.plain) read
          rw [alike.scalars, content_of_text (textual alike.other_plain) readToo] at content
          exact (Option.some.inj content).symm
      | _ => cases alike.kind_eq
  | _ => cases read

theorem optional_of_ne_null {α : Type} {check : Document → Checked α} {value : Document}
    (filled : value ≠ .scalar .null) : optional check value = (check value).map some := by
  cases value with
  | scalar value =>
      cases value with
      | null => exact absurd rfl filled
      | _ => rfl
  | _ => rfl

theorem null_of_alike {document : Document} (alike : Alike (.scalar .null) document) :
    document = .scalar .null := by
  cases document with
  | scalar value => rw [eq_null_of_shape alike.scalars.symm]
  | _ => cases alike.kind_eq

theorem determined_optional {α : Type} {check : Document → Checked α}
    (determined : Determined check) : Determined (optional check) := by
  intro document other result resultToo alike read readToo
  by_cases empty : document = .scalar .null
  · subst empty
    obtain rfl := null_of_alike alike
    exact Except.ok.inj (read.symm.trans readToo)
  · have filled : other ≠ .scalar .null := by
      rintro rfl
      exact empty (null_of_alike alike.symm)
    rw [optional_of_ne_null empty] at read
    rw [optional_of_ne_null filled] at readToo
    cases own : check document with
    | error errors => simp [own, Except.map] at read
    | ok value =>
        cases ownToo : check other with
        | error errors => simp [ownToo, Except.map] at readToo
        | ok valueToo =>
            rw [own] at read
            rw [ownToo, ← determined alike own ownToo] at readToo
            exact Except.ok.inj (read.symm.trans readToo)

theorem eq_of_items {ε α : Type} {check : Document → Except ε α} (determined : Determined check)
    {items others : List Document} {values valuesToo : List α}
    (parts : List.Forall₂ Alike items others)
    (each : List.Forall₂ (fun item value => check item = .ok value) items values)
    (eachToo : List.Forall₂ (fun item value => check item = .ok value) others valuesToo) :
    values = valuesToo := by
  induction parts generalizing values valuesToo with
  | nil =>
      cases each
      cases eachToo
      rfl
  | cons alike _ ih =>
      cases each with
      | cons own later =>
          cases eachToo with
          | cons ownToo laterToo => rw [determined alike own ownToo, ih later laterToo]

theorem determined_textList : Determined textList := by
  intro document other result resultToo alike read readToo
  cases document with
  | list items =>
      cases other with
      | list others =>
          exact eq_of_items determined_text alike.items (Checked.items_eq_ok.mp read)
            (Checked.items_eq_ok.mp readToo)
      | _ => cases alike.kind_eq
  | scalar _ => cases read
  | mapping _ => cases read
  | tuple _ => cases alike.plain
  | set _ => cases alike.plain

/-! Fields of mappings that are written alike. -/

section Fields

variable {α : Type} {check : Document → Checked α} {entries others : Entries} {name : String}

theorem required_ok {result : α} (read : required entries name check = .ok result) :
    ∃ value, entries.get? name = some value ∧ check value = .ok result := by
  cases found : entries.get? name with
  | none => simp [required, found] at read
  | some value =>
      simp only [required, found] at read
      exact ⟨value, rfl, Checked.within_eq_ok.mp read⟩

variable (determined : Determined check) (alike : Alike (.mapping entries) (.mapping others))
  (fieldName : IsFieldName name)
include determined alike fieldName

theorem required_eq {result resultToo : α} (read : required entries name check = .ok result)
    (readToo : required others name check = .ok resultToo) : result = resultToo := by
  obtain ⟨value, found, own⟩ := required_ok read
  obtain ⟨valueToo, foundToo, ownToo⟩ := required_ok readToo
  have related := alike.get? fieldName
  rw [found, foundToo] at related
  cases related with
  | some valuesAlike => exact determined valuesAlike own ownToo

theorem absent_eq {result resultToo : Option α} (read : absent entries name check = .ok result)
    (readToo : absent others name check = .ok resultToo) : result = resultToo := by
  have related := alike.get? fieldName
  simp only [absent] at read readToo
  generalize entries.get? name = value at related read
  generalize others.get? name = valueToo at related readToo
  cases related with
  | none => exact Except.ok.inj (read.symm.trans readToo)
  | some valuesAlike =>
      exact determined_optional determined valuesAlike (Checked.within_eq_ok.mp read)
        (Checked.within_eq_ok.mp readToo)

end Fields

theorem clauses_ok {entries : Entries} {definition : MatchDefinition}
    (read : clauses entries = .ok definition) :
    required entries "pattern" text = .ok definition.pattern ∧
      absent entries "type" text = .ok definition.kind ∧
      absent entries "account" text = .ok definition.account ∧
      absent entries "amount" text = .ok definition.amount := by
  simp only [clauses] at read
  split at read
  · rename_i pattern kind account amount _
    obtain rfl := Except.ok.inj read
    exact ⟨pattern, kind, account, amount⟩
  · cases read

theorem clauses_eq {entries others : Entries} (alike : Alike (.mapping entries) (.mapping others))
    {definition definitionToo : MatchDefinition} (read : clauses entries = .ok definition)
    (readToo : clauses others = .ok definitionToo) : definition = definitionToo := by
  obtain ⟨pattern, kind, account, amount⟩ := clauses_ok read
  obtain ⟨patternToo, kindToo, accountToo, amountToo⟩ := clauses_ok readToo
  have samePattern := required_eq determined_text alike (by decide) pattern patternToo
  have sameKind := absent_eq determined_text alike (by decide) kind kindToo
  have sameAccount := absent_eq determined_text alike (by decide) account accountToo
  have sameAmount := absent_eq determined_text alike (by decide) amount amountToo
  cases definition
  cases definitionToo
  simp_all

theorem matchForm_ok {document : Document} {form : MatchForm}
    (read : matchForm document = .ok form) :
    (∃ pattern, form = .text pattern ∧ text document = .ok pattern) ∨
      ∃ entries definition, document = .mapping entries ∧ form = .clauses definition ∧
        clauses entries = .ok definition := by
  simp only [matchForm] at read
  split at read
  · rename_i own
    exact .inl ⟨_, (Except.ok.inj read).symm, Checked.within_eq_ok.mp own⟩
  · split at read
    · rename_i own
      exact .inr ⟨_, _, rfl, (Except.ok.inj read).symm, own⟩
    · cases read
  · cases read

theorem kind_of_text {document : Document} {result : String} (read : text document = .ok result) :
    document.kind? = some .scalar := by
  cases document with
  | scalar value => rfl
  | _ => cases read

theorem determined_matchForm : Determined matchForm := by
  intro document other result resultToo alike read readToo
  rcases matchForm_ok read with ⟨pattern, rfl, own⟩ | ⟨entries, definition, rfl, rfl, own⟩ <;>
    rcases matchForm_ok readToo with ⟨patternToo, rfl, ownToo⟩ |
      ⟨entriesToo, definitionToo, rfl, rfl, ownToo⟩
  · rw [determined_text alike own ownToo]
  · have kinds := alike.kind_eq
    rw [kind_of_text own] at kinds
    cases kinds
  · have kinds := alike.kind_eq
    rw [kind_of_text ownToo] at kinds
    cases kinds
  · rw [clauses_eq alike own ownToo]

theorem transferRule_ok {entries : Entries} {definition : RuleDefinition}
    (read : transferRule entries = .ok definition) :
    ∃ account, definition.action = .transfer account ∧
      required entries "match" matchForm = .ok definition.matchForm ∧
      absent entries "description" text = .ok definition.description ∧
      required entries "transfer" text = .ok account := by
  simp only [transferRule] at read
  split at read
  · rename_i form description account _
    obtain rfl := Except.ok.inj read
    exact ⟨_, rfl, form, description, account⟩
  · cases read

theorem entryRule_ok {entries : Entries} {definition : RuleDefinition}
    (read : entryRule entries = .ok definition) :
    ∃ category tags, definition.action = .classify category tags ∧
      required entries "match" matchForm = .ok definition.matchForm ∧
      absent entries "description" text = .ok definition.description ∧
      absent entries "category" text = .ok category ∧
      absent entries "tags" textList = .ok tags := by
  simp only [entryRule] at read
  split at read
  · rename_i form description category tags _
    obtain rfl := Except.ok.inj read
    exact ⟨_, _, rfl, form, description, category, tags⟩
  · cases read

theorem RuleDefinition.ext {left right : RuleDefinition} (form : left.matchForm = right.matchForm)
    (description : left.description = right.description) (action : left.action = right.action) :
    left = right := by
  cases left
  cases right
  simp_all

section Rule

variable {entries others : Entries} (alike : Alike (.mapping entries) (.mapping others))
  {definition definitionToo : RuleDefinition}
include alike

theorem transferRule_eq (read : transferRule entries = .ok definition)
    (readToo : transferRule others = .ok definitionToo) : definition = definitionToo := by
  obtain ⟨account, action, form, description, transfer⟩ := transferRule_ok read
  obtain ⟨accountToo, actionToo, formToo, descriptionToo, transferToo⟩ := transferRule_ok readToo
  apply RuleDefinition.ext
  · exact required_eq determined_matchForm alike (by decide) form formToo
  · exact absent_eq determined_text alike (by decide) description descriptionToo
  · rw [action, actionToo,
      required_eq determined_text alike (by decide) transfer transferToo]

theorem entryRule_eq (read : entryRule entries = .ok definition)
    (readToo : entryRule others = .ok definitionToo) : definition = definitionToo := by
  obtain ⟨category, tags, action, form, description, categorized, tagged⟩ := entryRule_ok read
  obtain ⟨categoryToo, tagsToo, actionToo, formToo, descriptionToo, categorizedToo, taggedToo⟩ :=
    entryRule_ok readToo
  apply RuleDefinition.ext
  · exact required_eq determined_matchForm alike (by decide) form formToo
  · exact absent_eq determined_text alike (by decide) description descriptionToo
  · rw [action, actionToo,
      absent_eq determined_text alike (by decide) categorized categorizedToo,
      absent_eq determined_textList alike (by decide) tagged taggedToo]

theorem isSome_get?_eq {name : String} (fieldName : IsFieldName name) :
    (entries.get? name).isSome = (others.get? name).isSome := by
  have related := alike.get? fieldName
  generalize entries.get? name = value at related
  generalize others.get? name = valueToo at related
  cases related <;> rfl

theorem rule_eq (read : rule entries = .ok definition) (readToo : rule others = .ok definitionToo) :
    definition = definitionToo := by
  have sameKind := isSome_get?_eq alike (by decide : IsFieldName "transfer")
  simp only [rule, sameKind] at read readToo
  split at readToo
  · rename_i transfer
    rw [if_pos transfer] at read
    exact transferRule_eq alike read readToo
  · rename_i entry
    rw [if_neg entry] at read
    exact entryRule_eq alike read readToo

end Rule

end Definition

section Compiled

variable {platform : Platform}

theorem Rule.ofDocument_ok {position : Nat} {document : Document} {rule : Rule}
    (read : Rule.ofDocument platform position document = .ok rule) :
    ∃ entries definition matcher, document = .mapping entries ∧
      Definition.rule entries = .ok definition ∧
      definition.matchForm.compile platform position = .ok matcher ∧
      rule = ⟨matcher, definition.description, definition.action, position⟩ := by
  cases document with
  | mapping entries =>
      simp only [Rule.ofDocument] at read
      split at read
      · rename_i definition own
        cases compiled : definition.matchForm.compile platform position with
        | error error => simp [compiled, Except.map] at read
        | ok matcher =>
            rw [compiled] at read
            exact ⟨entries, definition, matcher, rfl, own, compiled, (Except.ok.inj read).symm⟩
      · cases read
  | _ => cases read

theorem determined_ruleOfDocument (position : Nat) :
    Determined (Rule.ofDocument platform position) := by
  intro document other result resultToo alike read readToo
  obtain ⟨entries, definition, matcher, rfl, own, compiled, rfl⟩ := Rule.ofDocument_ok read
  obtain ⟨others, definitionToo, matcherToo, rfl, ownToo, compiledToo, rfl⟩ :=
    Rule.ofDocument_ok readToo
  obtain rfl := Definition.rule_eq alike own ownToo
  rw [Except.ok.inj (compiled.symm.trans compiledToo)]

theorem compileFrom_eq {documents others : List Document}
    (parts : List.Forall₂ Alike documents others) {position : Nat} {rules rulesToo : List Rule}
    (compiled : compileFrom platform position documents = .ok rules)
    (compiledToo : compileFrom platform position others = .ok rulesToo) : rules = rulesToo := by
  induction parts generalizing position rules rulesToo with
  | nil => exact Except.ok.inj (compiled.symm.trans compiledToo)
  | cons alike _ ih =>
      simp only [compileFrom, Except.bind_eq_ok, Except.pure_eq_ok] at compiled compiledToo
      obtain ⟨rule, own, rest, later, rfl⟩ := compiled
      obtain ⟨ruleToo, ownToo, restToo, laterToo, rfl⟩ := compiledToo
      rw [determined_ruleOfDocument position alike own ownToo, ih later laterToo]

theorem ruleDocuments_ok {document : Document} {documents : List Document}
    (listed : ruleDocuments document = .ok documents) :
    document = .scalar .null ∧ documents = [] ∨ document = .list documents ∨
      ∃ (entries : Entries) (rules : Document), document = .mapping entries ∧
        entries.get? "rules" = some rules ∧
        (rules.isEmptyValue = true ∧ documents = [] ∨ rules = .list documents) := by
  cases document with
  | scalar value =>
      cases value with
      | null => exact .inl ⟨rfl, (Except.ok.inj listed).symm⟩
      | _ => cases listed
  | list items => exact .inr (.inl (Except.ok.inj listed ▸ rfl))
  | mapping entries =>
      simp only [ruleDocuments] at listed
      cases found : Document.Entries.get? entries "rules" with
      | none => simp [found] at listed
      | some rules =>
          simp only [found] at listed
          refine .inr (.inr ⟨entries, rules, rfl, found, ?_⟩)
          split at listed
          · rename_i empty
            exact .inl ⟨empty, (Except.ok.inj listed).symm⟩
          · cases rules with
            | list items => exact .inr (Except.ok.inj listed ▸ rfl)
            | _ => cases listed
  | _ => cases listed

/-- What is empty stands for no rules, whatever it is; but beside a list it is an empty list. -/
theorem nil_of_empty {rules : Document} {others : List Document}
    (alike : Alike rules (.list others)) (empty : rules.isEmptyValue = true) : others = [] := by
  cases rules with
  | list items =>
      obtain rfl : items = [] := List.isEmpty_iff.mp empty
      exact List.forall₂_nil_left_iff.mp alike.items
  | _ => cases alike.kind_eq

theorem ruleDocuments_alike {document other : Document} (alike : Alike document other)
    {documents others : List Document} (listed : ruleDocuments document = .ok documents)
    (listedToo : ruleDocuments other = .ok others) : List.Forall₂ Alike documents others := by
  rcases ruleDocuments_ok listed with
    ⟨rfl, rfl⟩ | rfl | ⟨entries, rules, rfl, found, form⟩ <;>
  rcases ruleDocuments_ok listedToo with
    ⟨rfl, rfl⟩ | rfl | ⟨entriesToo, rulesToo, rfl, foundToo, formToo⟩
  case inl.inl => exact .nil
  case inr.inl.inr.inl => exact alike.items
  case inr.inr.inr.inr =>
    have related := alike.get? (by decide : IsFieldName "rules")
    rw [found, foundToo] at related
    cases related with
    | some rulesAlike =>
        rcases form with ⟨empty, rfl⟩ | rfl
        · rcases formToo with ⟨_, rfl⟩ | rfl
          · exact .nil
          · rw [nil_of_empty rulesAlike empty]
            exact .nil
        · rcases formToo with ⟨empty, rfl⟩ | rfl
          · rw [nil_of_empty rulesAlike.symm empty]
            exact .nil
          · exact rulesAlike.items
  all_goals cases alike.kind_eq

theorem compileRules_eq {document other : Document} (alike : Alike document other)
    {rules rulesToo : List Rule} (compiled : compileRules platform document = .ok rules)
    (compiledToo : compileRules platform other = .ok rulesToo) : rules = rulesToo := by
  simp only [compileRules, Except.bind_eq_ok] at compiled compiledToo
  obtain ⟨documents, listed, compiled⟩ := compiled
  obtain ⟨others, listedToo, compiledToo⟩ := compiledToo
  have parts := ruleDocuments_alike alike (Except.mapError_eq_ok.mp listed)
    (Except.mapError_eq_ok.mp listedToo)
  exact compileFrom_eq parts compiled compiledToo

end Compiled

end LedgerRules
