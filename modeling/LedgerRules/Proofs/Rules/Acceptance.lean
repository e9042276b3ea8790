import LedgerRules.Proofs.Json.WholeNumbers
import LedgerRules.Proofs.Ledger.RoundTrip
import LedgerRules.Proofs.Rules.Alike
import LedgerRules.Proofs.Rules.Grammar

/-!
Rules are made of a document that is given as a JSON value if and only if the document belongs to
the grammar, and then they are the rules that it describes, one for each element and in the same
order.
-/

namespace LedgerRules

open Json

theorem Double.place?_eq_zero_iff {value : Double} :
    value.place? = some 0 ↔ ∃ negative, value = .zero negative := by
  have zero_eq (negative : Bool) : zero negative = .finite negative ⟨0, by decide⟩ := rfl
  constructor
  · intro place
    cases value with
    | finite negative rank =>
        refine ⟨negative, ?_⟩
        have least : rank.val = 0 := by
          cases negative <;> simpa [place?] using place
        rw [zero_eq]
        congr
        exact Fin.ext least
    | infinite negative => cases negative <;> simp [place?, finiteMagnitudes] at place
    | notANumber => cases place
  · rintro ⟨negative, rfl⟩
    cases negative <;> rfl

theorem Double.equals_zero_iff {value : Double} :
    value.equals (.zero false) = true ↔ ∃ negative, value = .zero negative := by
  have zero : (Double.zero false).place? = some 0 := rfl
  rw [← place?_eq_zero_iff, equals, compareWith, zero]
  cases value.place? <;> simp

theorem Json.isText_iff_of_isShort {value : Json} (short : value.IsShort) :
    value.IsText ↔ value.IsStringOrNumber := by
  constructor
  · rintro ⟨_, _ | _ | _⟩ <;> trivial
  · intro known
    cases value with
    | string text => exact ⟨_, .string text⟩
    | integer value => exact ⟨_, .integer short⟩
    | double value => exact ⟨_, .double value⟩
    | _ => exact known.elim

namespace Document

theorem ofItems_eq (items : List Json) : ofItems items = items.map ofJson := by
  induction items with
  | nil => rfl
  | cons item rest ih => rw [ofItems, ih, List.map_cons]

theorem ofFields_eq (fields : Json.Fields) :
    ofFields fields = fields.map fun field => (.string field.1, ofJson field.2) := by
  induction fields with
  | nil => rfl
  | cons field rest ih => rw [ofFields, ih, List.map_cons]

theorem get?_ofFields (fields : Json.Fields) (name : String) :
    Entries.get? (ofFields fields) name = (fields.get? name).map ofJson := by
  induction fields with
  | nil => rfl
  | cons field rest ih =>
      obtain ⟨key, value⟩ := field
      rw [Json.Fields.get?_cons, ofFields, Entries.get?]
      by_cases same : name = key
      · simp [same]
      · have other : (Scalar.string key == Scalar.string name) = false := by
          simpa using Ne.symm same
        simpa [same, other, Entries.get?] using ih

theorem isEmptyValue_iff {value : Json} :
    (ofJson value).isEmptyValue = true ↔ value.IsEmptyValue ∨ value = .array [] := by
  constructor
  · intro empty
    cases value with
    | null => exact .inl .null
    | bool given =>
        obtain rfl : given = false := by simpa [ofJson, isEmptyValue] using empty
        exact .inl .no
    | integer given =>
        obtain rfl : given = 0 := by simpa [ofJson, isEmptyValue] using empty
        exact .inl .integer
    | double given =>
        obtain ⟨negative, rfl⟩ := Double.equals_zero_iff.mp empty
        exact .inl (.double negative)
    | string given =>
        obtain rfl : given = "" := by simpa [ofJson, isEmptyValue] using empty
        exact .inl .string
    | array items =>
        cases items with
        | nil => exact .inr rfl
        | cons _ _ => cases empty
    | object fields =>
        cases fields with
        | nil => exact .inl .object
        | cons _ _ => cases empty
  · rintro ((_ | _ | _ | negative | _ | _) | rfl)
    case inl.double => exact Double.equals_zero_iff.mpr ⟨negative, rfl⟩
    all_goals rfl

end Document

namespace Definition

open Document

theorem text_iff {value : Json} {result : String} :
    text (ofJson value) = .ok result ↔ value.Says result := by
  constructor
  · intro read
    cases value with
    | string given => exact Except.ok.inj read ▸ .string given
    | integer given =>
        simp only [ofJson, text] at read
        split at read
        · cases read
        · rename_i short
          exact Except.ok.inj read ▸ .integer (Bool.eq_false_of_not_eq_true short)
    | double given => exact Except.ok.inj read ▸ .double given
    | _ => cases read
  · rintro (_ | short | _)
    case integer => simp only [ofJson, text, short, Bool.false_eq_true, if_false]
    all_goals rfl

theorem textList_iff {value : Json} {results : List String} :
    textList (ofJson value) = .ok results ↔ value.SaysTexts results := by
  cases value with
  | array items =>
      simp only [ofJson, textList, Checked.items_eq_ok, ofItems_eq, List.forall₂_map_left_iff,
        text_iff, SaysTexts, Json.array.injEq, exists_eq_left']
  | _ => simp [ofJson, textList, SaysTexts]

section Fields

variable {α : Type} {check : Document → Checked α} {means : Json → α → Prop}
  (reads : ∀ {value result}, check (ofJson value) = .ok result ↔ means value result)
  {fields : Json.Fields} {name : String}
include reads

theorem required_iff {result : α} :
    required (ofFields fields) name check = .ok result ↔
      Requires (means · result) (fields.get? name) := by
  rw [required, get?_ofFields]
  cases fields.get? name with
  | none => simp [Requires]
  | some value => simp [Requires, Checked.within_eq_ok, reads]

theorem optional_iff (filled : ∀ result, ¬means .null result) {value : Json} {result : Option α} :
    optional check (ofJson value) = .ok result ↔ Gives means (some value) result := by
  by_cases empty : value = .null
  · subst empty
    constructor
    · intro read
      obtain rfl := Except.ok.inj read
      exact .null
    · intro gives
      cases gives with
      | null => rfl
      | given meaning => exact absurd meaning (filled _)
  · have other : ofJson value ≠ .scalar .null := by
      cases value <;> simp_all [ofJson]
    rw [optional_of_ne_null other]
    constructor
    · intro read
      cases own : check (ofJson value) with
      | error errors => simp [own, Except.map] at read
      | ok found =>
          rw [own] at read
          obtain rfl := Except.ok.inj read
          exact .given (reads.mp own)
    · intro gives
      cases gives with
      | null => exact absurd rfl empty
      | given meaning => rw [reads.mpr meaning]; rfl

theorem absent_iff (filled : ∀ result, ¬means .null result) {result : Option α} :
    absent (ofFields fields) name check = .ok result ↔ Gives means (fields.get? name) result := by
  rw [absent, get?_ofFields]
  cases fields.get? name with
  | none =>
      constructor
      · intro read
        obtain rfl := Except.ok.inj read
        exact .missing
      · intro gives
        cases gives
        rfl
  | some value =>
      rw [Option.map_some]
      exact Checked.within_eq_ok.trans (optional_iff reads filled)

end Fields

theorem absent_text_iff {fields : Json.Fields} {name : String} {result : Option String} :
    absent (ofFields fields) name text = .ok result ↔ Gives Says (fields.get? name) result :=
  absent_iff text_iff not_says_null

theorem keyErrors_iff {known : List String} {fields : Json.Fields} :
    keyErrors known (ofFields fields) = [] ↔ fields.HasOnly known := by
  have given {field : String × Json} (member : field ∈ fields) :
      (Entries.get? (ofFields fields) field.1).isSome := by
    rw [get?_ofFields, Option.isSome_map, Option.isSome_iff_ne_none]
    exact fun absent => Json.Fields.get?_eq_none_iff.mp absent field member rfl
  rw [keyErrors, List.filterMap_eq_nil_iff, ofFields_eq, List.forall_mem_map]
  apply forall₂_congr
  intro field member
  simp only [keyError?, List.contains_iff_mem, List.mem_filter, ← ofFields_eq, given member,
    and_true, ite_eq_left_iff, reduceCtorEq, imp_false, not_not]

/-- What a mapping of clauses gives before its kind, its amount and its pattern are looked into. -/
structure ClausesGive (fields : Json.Fields) (definition : MatchDefinition) : Prop where
  known : fields.HasOnly ["pattern", "type", "account", "amount"]
  pattern : Requires (·.Says definition.pattern) (fields.get? "pattern")
  kind : Gives Says (fields.get? "type") definition.kind
  account : Gives Says (fields.get? "account") definition.account
  amount : Gives Says (fields.get? "amount") definition.amount

theorem clauses_iff {fields : Json.Fields} {definition : MatchDefinition} :
    clauses (ofFields fields) = .ok definition ↔ ClausesGive fields definition := by
  constructor
  · intro read
    obtain ⟨pattern, kind, account, amount⟩ := clauses_ok read
    refine ⟨?_, (required_iff text_iff).mp pattern, absent_text_iff.mp kind,
      absent_text_iff.mp account, absent_text_iff.mp amount⟩
    simp only [clauses] at read
    split at read
    · rename_i unknown
      exact keyErrors_iff.mp unknown
    · cases read
  · intro gives
    simp only [clauses, (required_iff text_iff).mpr gives.pattern, absent_text_iff.mpr gives.kind,
      absent_text_iff.mpr gives.account, absent_text_iff.mpr gives.amount,
      keyErrors_iff.mpr gives.known]

inductive FormGives : Json → MatchForm → Prop where
  | text {value : Json} {pattern : String} (means : value.Says pattern) :
      FormGives value (.text pattern)
  | clauses {fields : Json.Fields} {definition : MatchDefinition}
      (gives : ClausesGive fields definition) : FormGives (.object fields) (.clauses definition)

theorem matchForm_iff {value : Json} {form : MatchForm} :
    matchForm (ofJson value) = .ok form ↔ FormGives value form := by
  constructor
  · intro read
    rcases matchForm_ok read with ⟨pattern, rfl, own⟩ | ⟨entries, definition, same, rfl, own⟩
    · exact .text (text_iff.mp own)
    · cases value with
      | object fields =>
          obtain rfl := Document.mapping.inj same
          exact .clauses (clauses_iff.mp own)
      | _ => cases same
  · intro gives
    cases gives with
    | text means => simp only [matchForm, text_iff.mpr means, Checked.within, Except.mapError]
    | clauses gives =>
        simp only [matchForm, ofJson, text, Checked.within, Except.mapError, clauses_iff.mpr gives]

theorem requiredForm_iff {fields : Json.Fields} {result : MatchForm} :
    required (ofFields fields) "match" matchForm = .ok result ↔
      Requires (FormGives · result) (fields.get? "match") := required_iff matchForm_iff

theorem absentTags_iff {fields : Json.Fields} {result : Option (List String)} :
    absent (ofFields fields) "tags" textList = .ok result ↔
      Gives SaysTexts (fields.get? "tags") result := absent_iff textList_iff not_saysTexts_null

theorem transferRule_iff {fields : Json.Fields} {definition : RuleDefinition} {value : Json}
    (transferred : fields.get? "transfer" = some value) :
    transferRule (ofFields fields) = .ok definition ↔
      Requires (FormGives · definition.matchForm) (fields.get? "match") ∧
        Gives Says (fields.get? "description") definition.description ∧
        DescribesAction fields definition.action := by
  constructor
  · intro read
    obtain ⟨account, action, formRead, description, transfer⟩ := transferRule_ok read
    refine ⟨requiredForm_iff.mp formRead, absent_text_iff.mp description, ?_⟩
    rw [action]
    refine .transfer ?_ ((required_iff text_iff).mp transfer)
    simp only [transferRule] at read
    split at read
    · rename_i unknown
      exact keyErrors_iff.mp unknown
    · cases read
  · obtain ⟨matchForm, description, action⟩ := definition
    rintro ⟨formGiven, described, action⟩
    cases action with
    | transfer known transfer =>
        simp only [transferRule, requiredForm_iff.mpr formGiven, absent_text_iff.mpr described,
          (required_iff text_iff).mpr transfer, keyErrors_iff.mpr known]
    | classify known plain =>
        rw [plain] at transferred
        cases transferred

theorem entryRule_iff {fields : Json.Fields} {definition : RuleDefinition}
    (plain : fields.get? "transfer" = none) :
    entryRule (ofFields fields) = .ok definition ↔
      Requires (FormGives · definition.matchForm) (fields.get? "match") ∧
        Gives Says (fields.get? "description") definition.description ∧
        DescribesAction fields definition.action := by
  constructor
  · intro read
    obtain ⟨category, tagList, action, formRead, description, classified, tagged⟩ :=
      entryRule_ok read
    refine ⟨requiredForm_iff.mp formRead, absent_text_iff.mp description, ?_⟩
    rw [action]
    refine .classify ?_ plain (absent_text_iff.mp classified) (absentTags_iff.mp tagged)
    simp only [entryRule] at read
    split at read
    · rename_i unknown
      exact keyErrors_iff.mp unknown
    · cases read
  · obtain ⟨matchForm, description, action⟩ := definition
    rintro ⟨formGiven, described, action⟩
    cases action with
    | transfer known transfer =>
        obtain ⟨value, given, _⟩ := transfer
        rw [plain] at given
        cases given
    | classify known plain classified tagged =>
        simp only [entryRule, requiredForm_iff.mpr formGiven, absent_text_iff.mpr described,
          absent_text_iff.mpr classified, absentTags_iff.mpr tagged, keyErrors_iff.mpr known]

theorem rule_iff {fields : Json.Fields} {definition : RuleDefinition} :
    rule (ofFields fields) = .ok definition ↔
      Requires (FormGives · definition.matchForm) (fields.get? "match") ∧
        Gives Says (fields.get? "description") definition.description ∧
        DescribesAction fields definition.action := by
  simp only [rule, get?_ofFields, Option.isSome_map]
  cases transferred : fields.get? "transfer" with
  | some value =>
      simp only [Option.isSome_some, if_true]
      exact transferRule_iff transferred
  | none =>
      simp only [Option.isSome_none, Bool.false_eq_true, if_false]
      exact entryRule_iff transferred

end Definition

open Document

theorem EntryKind.ofText?_eq_some {text : String} {kind : EntryKind} :
    EntryKind.ofText? text = some kind ↔ text = kind.text := by
  constructor
  · intro found
    simp only [EntryKind.ofText?] at found
    split at found
    · rename_i expense
      exact Option.some.inj found ▸ expense
    · split at found
      · rename_i income
        exact Option.some.inj found ▸ income
      · cases found
  · rintro rfl
    cases kind <;> rfl

section Compiled

variable {platform : Platform}

theorem Matcher.ofPattern_iff {text : String} {kind : Option EntryKind} {account : Option String}
    {amount : Option AmountFilter} {matcher : Matcher} :
    ofPattern platform text kind account amount = .ok matcher ↔
      ∃ pattern, Pattern.compile platform text = .ok pattern ∧
        matcher = ⟨text, pattern, kind, account, amount⟩ := by
  rw [ofPattern]
  cases Pattern.compile platform text with
  | ok pattern => simp [eq_comm]
  | error refusal => cases refusal <;> simp

def readKind (position : Nat) : Option String → Except RulesError (Option EntryKind)
  | none => .ok none
  | some text =>
      match EntryKind.ofText? text with
      | some kind => .ok (some kind)
      | none => .error (.configuration (.matchType position text))

def readAmount (position : Nat) (kind : Option EntryKind) :
    Option String → Except RulesError (Option AmountFilter)
  | none => .ok none
  | some raw =>
      if kind.isNone then .error (.configuration (.amountWithoutType position))
      else ((AmountFilter.parse raw).mapError .configuration).map some

theorem MatchDefinition.compile_eq (definition : MatchDefinition) (position : Nat) :
    definition.compile platform position = (do
      let kind ← readKind position definition.kind
      let amount ← readAmount position kind definition.amount
      Matcher.ofPattern platform definition.pattern kind definition.account amount) := by
  obtain ⟨pattern, text?, account, raw?⟩ := definition
  cases text? with
  | none => cases raw? <;> rfl
  | some text =>
      simp only [readKind, MatchDefinition.compile]
      cases EntryKind.ofText? text with
      | none => rfl
      | some kind => cases raw? <;> rfl

theorem readKind_iff {position : Nat} {text? : Option String} {kind? : Option EntryKind} :
    readKind position text? = .ok kind? ↔
      Option.Rel (fun text kind => text = EntryKind.text kind) text? kind? := by
  cases text? with
  | none => cases kind? <;> simp [readKind]
  | some text =>
      rw [readKind]
      cases found : EntryKind.ofText? text with
      | none =>
          constructor
          · exact nofun
          · rintro (same | _)
            rw [EntryKind.ofText?_eq_some.mpr same] at found
            cases found
      | some kind =>
          obtain rfl := EntryKind.ofText?_eq_some.mp found
          constructor
          · intro read
            exact Except.ok.inj read ▸ .some rfl
          · rintro (same | _)
            rw [EntryKind.ofText?_eq_some.mpr same] at found
            exact congrArg _ found.symm

theorem readAmount_iff {position : Nat} {kind? : Option EntryKind} {raw? : Option String}
    {amount? : Option AmountFilter} :
    readAmount position kind? raw? = .ok amount? ↔
      Option.Rel (fun raw filter => AmountFilter.parse raw = .ok filter) raw? amount? ∧
        (amount?.isSome → kind?.isSome) := by
  cases raw? with
  | none => cases amount? <;> simp [readAmount]
  | some raw =>
      cases amount? <;> cases kind? <;> cases parsed : AmountFilter.parse raw <;>
        simp [readAmount, Except.mapError, Except.map, parsed]

theorem compile_clauses_iff {fields : Json.Fields} {position : Nat} {matcher : Matcher} :
    (∃ definition, Definition.ClausesGive fields definition ∧
      definition.compile platform position = .ok matcher) ↔
      ClausesDescribe platform fields matcher := by
  simp only [MatchDefinition.compile_eq, Except.bind_eq_ok, readKind_iff, readAmount_iff,
    Matcher.ofPattern_iff]
  constructor
  · rintro ⟨⟨text, kind?, account, amount?⟩, gives, kind, kindRead, amount, ⟨amountRead, needed⟩,
      pattern, compiles, rfl⟩
    have asked := gives_rel_iff.mp ⟨kind?, gives.kind, kindRead⟩
    simp only [exists_eq_right] at asked
    exact ⟨gives.known, gives.pattern, compiles, asked, gives.account,
      gives_rel_iff.mp ⟨amount?, gives.amount, amountRead⟩, needed⟩
  · intro describe
    obtain ⟨text, pattern, kind, account, amount⟩ := matcher
    have asked : Gives (fun value kind => ∃ text, value.Says text ∧ text = EntryKind.text kind)
        (fields.get? "type") kind := by
      simp only [exists_eq_right]
      exact describe.kind
    obtain ⟨kind?, kindGiven, kindRead⟩ := gives_rel_iff.mpr asked
    obtain ⟨amount?, amountGiven, amountRead⟩ := gives_rel_iff.mpr describe.amount
    exact ⟨⟨text, kind?, account, amount?⟩,
      ⟨describe.known, describe.text, kindGiven, describe.account, amountGiven⟩, kind, kindRead,
      amount, ⟨amountRead, describe.kind_of_amount⟩, pattern, describe.compiles, rfl⟩

theorem compile_form_iff {value : Json} {position : Nat} {matcher : Matcher} :
    (∃ form, Definition.FormGives value form ∧ form.compile platform position = .ok matcher) ↔
      DescribesMatcher platform value matcher := by
  constructor
  · rintro ⟨form, gives, compiled⟩
    cases gives with
    | text means =>
        obtain ⟨pattern, compiles, rfl⟩ := Matcher.ofPattern_iff.mp compiled
        exact .text means compiles
    | clauses gives => exact .clauses (compile_clauses_iff.mp ⟨_, gives, compiled⟩)
  · intro describes
    cases describes with
    | text means compiles => exact ⟨_, .text means, Matcher.ofPattern_iff.mpr ⟨_, compiles, rfl⟩⟩
    | clauses describe =>
        obtain ⟨definition, gives, compiled⟩ := compile_clauses_iff.mpr describe
        exact ⟨_, .clauses gives, compiled⟩

theorem Rule.ofDocument_iff {element : Json} {position : Nat} {rule : Rule} :
    ofDocument platform position (.ofJson element) = .ok rule ↔
      DescribesRule platform (element, position) rule := by
  constructor
  · intro read
    obtain ⟨entries, definition, matcher, same, own, compiled, rfl⟩ := ofDocument_ok read
    cases element with
    | object fields =>
        obtain rfl := Document.mapping.inj same
        obtain ⟨⟨value, found, gives⟩, described, action⟩ := Definition.rule_iff.mp own
        exact ⟨fields, rfl, ⟨value, found, compile_form_iff.mp ⟨_, gives, compiled⟩⟩, described,
          action, rfl⟩
    | _ => cases same
  · obtain ⟨matcher, description, action, place⟩ := rule
    rintro ⟨fields, rfl, ⟨value, found, describes⟩, described, acts, rfl⟩
    obtain ⟨form, gives, compiled⟩ := compile_form_iff.mpr describes
    have own : Definition.rule (ofFields fields) = .ok ⟨form, description, action⟩ :=
      Definition.rule_iff.mpr ⟨⟨value, found, gives⟩, described, acts⟩
    simp only [ofDocument, ofJson, own]
    rw [compiled]
    rfl

theorem compileFrom_iff {elements : List Json} {position : Nat} {rules : List Rule} :
    compileFrom platform position (elements.map .ofJson) = .ok rules ↔
      List.Forall₂ (DescribesRule platform) (elements.zipIdx position) rules := by
  induction elements generalizing position rules with
  | nil => simp [compileFrom, eq_comm]
  | cons element rest ih =>
      simp only [List.map_cons, compileFrom, Except.bind_eq_ok, Except.pure_eq_ok,
        Rule.ofDocument_iff, ih, List.zipIdx_cons, List.forall₂_cons_left_iff]
      constructor
      · rintro ⟨rule, describes, later, others, rfl⟩
        exact ⟨rule, later, describes, others, rfl⟩
      · rintro ⟨rule, later, describes, others, rfl⟩
        exact ⟨rule, describes, later, others, rfl⟩

theorem ruleDocuments_iff {document : Json} {documents : List Document} :
    ruleDocuments (.ofJson document) = .ok documents ↔
      ∃ elements, document.HasElements elements ∧ documents = elements.map .ofJson := by
  constructor
  · intro listed
    rcases ruleDocuments_ok listed with
      ⟨same, rfl⟩ | same | ⟨entries, value, same, found, form⟩
    · cases document with
      | null => exact ⟨[], .nothing, rfl⟩
      | _ => cases same
    · cases document with
      | array elements =>
          rw [ofJson, ofItems_eq] at same
          exact ⟨elements, .list elements, (Document.list.inj same).symm⟩
      | _ => cases same
    · cases document with
      | object fields =>
          obtain rfl := Document.mapping.inj same
          rw [get?_ofFields, Option.map_eq_some_iff] at found
          obtain ⟨given, found, rfl⟩ := found
          rcases form with ⟨empty, rfl⟩ | same
          · rcases isEmptyValue_iff.mp empty with empty | rfl
            · exact ⟨[], .empty found empty, rfl⟩
            · exact ⟨[], .rules found, rfl⟩
          · cases given with
            | array elements =>
                rw [ofJson, ofItems_eq] at same
                exact ⟨elements, .rules found, (Document.list.inj same).symm⟩
            | _ => cases same
      | _ => cases same
  · rintro ⟨elements, has, rfl⟩
    cases has with
    | nothing => rfl
    | list => rw [ofJson, ofItems_eq]; rfl
    | @rules fields _ found =>
        simp only [ruleDocuments, ofJson, get?_ofFields, found, Option.map_some]
        cases elements <;> simp [ofItems, isEmptyValue, ofItems_eq]
    | @empty fields value found empty =>
        have emptyToo : (ofJson value).isEmptyValue = true := isEmptyValue_iff.mpr (.inl empty)
        simp only [ruleDocuments, ofJson, get?_ofFields, found, Option.map_some, emptyToo, if_true,
          List.map_nil]

theorem compileRules_iff {document : Json} {rules : List Rule} :
    compileRules platform (.ofJson document) = .ok rules ↔
      ∃ elements, document.HasElements elements ∧
        List.Forall₂ (DescribesRule platform) elements.zipIdx rules := by
  simp only [compileRules, Except.bind_eq_ok, Except.mapError_eq_ok, ruleDocuments_iff]
  constructor
  · rintro ⟨_, ⟨elements, has, rfl⟩, compiled⟩
    exact ⟨elements, has, compileFrom_iff.mp compiled⟩
  · rintro ⟨elements, has, describe⟩
    exact ⟨_, ⟨elements, has, rfl⟩, compileFrom_iff.mpr describe⟩

theorem exists_described {elements : List Json} (position : Nat) :
    (∃ rules, List.Forall₂ (DescribesRule platform) (elements.zipIdx position) rules) ↔
      ∀ element ∈ elements, element.IsRule platform := by
  induction elements generalizing position with
  | nil => simp
  | cons element rest ih =>
      rw [List.forall_mem_cons, ← ih (position + 1), isRule_iff position]
      simp only [List.zipIdx_cons, List.forall₂_cons_left_iff]
      constructor
      · rintro ⟨_, rule, rules, describes, others, rfl⟩
        exact ⟨⟨rule, describes⟩, rules, others⟩
      · rintro ⟨⟨rule, describes⟩, rules, others⟩
        exact ⟨_, rule, rules, describes, others, rfl⟩

end Compiled

/-- A document is made into rules if and only if it belongs to the grammar, and the rules are those
that its elements describe. Strings and numbers are text in it, but for whole numbers that have too
many digits, and no document that is read from a JSON text has one of these. -/
theorem rules_made_exactly_of_grammar (platform : Platform) (document : Json) :
    ((∃ rules, compileRules platform (.ofJson document) = .ok rules) ↔
        document.IsRulesDocument platform) ∧
      (∀ rules, compileRules platform (.ofJson document) = .ok rules ↔
        ∃ elements, document.HasElements elements ∧
          List.Forall₂ (DescribesRule platform) elements.zipIdx rules) ∧
      ∀ text, Json.read text = .ok document → ∀ part : Json, part.IsPartOf document →
        (part.IsText ↔ part.IsStringOrNumber) := by
  refine ⟨?_, fun rules => compileRules_iff, fun text read part within =>
    isText_iff_of_isShort (isWritable_of_read read part within)⟩
  simp only [compileRules_iff]
  constructor
  · rintro ⟨rules, elements, has, describe⟩
    exact ⟨elements, has, (exists_described 0).mp ⟨rules, describe⟩⟩
  · rintro ⟨elements, has, isRule⟩
    obtain ⟨rules, describe⟩ := (exists_described 0).mpr isRule
    exact ⟨rules, elements, has, describe⟩

end LedgerRules
