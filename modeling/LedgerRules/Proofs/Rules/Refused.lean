import LedgerRules.Proofs.Pattern.Excess
import LedgerRules.Proofs.Rules.Ended

/-!
Rules documents that are refused. The first element that is no rule decides with which error,
whatever follows it. The error is one of the configuration, unless the pattern of that element asks
for too much, or a whole number in it has too many digits to be written.
-/

namespace LedgerRules

open Pattern (RepeatsTooOften HasLongNumber HasLargeCode TurnsOn)

/-- The text that an element gives as its pattern, by itself or as one of the clauses. -/
def Json.HasPattern (element : Json) (text : String) : Prop :=
  ∃ fields : Json.Fields, element = .object fields ∧ ∃ form ∈ fields.get? "match",
    form.Says text ∨ ∃ clauses : Json.Fields, form = .object clauses ∧
      Json.Requires (·.Says text) (clauses.get? "pattern")

/-- A pattern that asks for too much, and the error that says so. Only how deep a pattern may be is
up to the machine; all else can be seen in the text. -/
inductive RulesError.IsExcess (platform : Platform) (text : String) : RulesError → Prop where
  | repetition (refused : Pattern.compile platform text = .error .repetitionTooLarge)
      (asked : RepeatsTooOften text.toList) : IsExcess platform text .repetitionTooLarge
  | digits {count : Nat}
      (refused : Pattern.compile platform text = .error (.repetitionTooLong count))
      (asked : HasLongNumber text.toList count) : IsExcess platform text (.repetitionTooLong count)
  | code (refused : Pattern.compile platform text = .error .codeTooLarge)
      (asked : HasLargeCode text.toList) : IsExcess platform text .codeTooLarge
  | kinds (refused : Pattern.compile platform text = .error .kindsIncompatible)
      (ascii : TurnsOn text.toList 'a') (unicode : TurnsOn text.toList 'u') :
      IsExcess platform text .kindsIncompatible
  | depth (refused : Pattern.compile platform text = .error .tooDeep)
      (deep : platform.exhausts (.pattern text) = true) : IsExcess platform text .patternTooDeep

def RulesError.IsConfiguration (error : RulesError) : Prop := ∃ fault, error = .configuration fault

section Refused

variable {platform : Platform}

theorem Matcher.ofPattern_refused {text : String} {kind : Option EntryKind}
    {account : Option String} {amount : Option AmountFilter} {error : RulesError}
    (refused : ofPattern platform text kind account amount = .error error) :
    error.IsConfiguration ∨ error.IsExcess platform text := by
  rw [ofPattern] at refused
  cases compiled : Pattern.compile platform text with
  | ok pattern => simp [compiled] at refused
  | error refusal =>
      rw [compiled] at refused
      rcases Pattern.refused_cases compiled with blamed | ⟨rfl, deep⟩
      · cases refusal with
        | malformed fault position =>
            cases refused
            exact .inl ⟨_, rfl⟩
        | repetitionTooLarge =>
            cases refused
            exact .inr (.repetition compiled blamed)
        | repetitionTooLong count =>
            cases refused
            exact .inr (.digits compiled blamed)
        | codeTooLarge =>
            cases refused
            exact .inr (.code compiled blamed)
        | kindsIncompatible =>
            cases refused
            exact .inr (.kinds compiled blamed.1 blamed.2)
        | tooDeep => exact blamed.elim
      · cases refused
        exact .inr (.depth compiled deep)

theorem readKind_refused {position : Nat} {text? : Option String} {error : RulesError}
    (refused : readKind position text? = .error error) : error.IsConfiguration := by
  cases text? with
  | none => cases refused
  | some text =>
      rw [readKind] at refused
      split at refused
      · cases refused
      · cases refused
        exact ⟨_, rfl⟩

theorem readAmount_refused {position : Nat} {kind : Option EntryKind} {raw? : Option String}
    {error : RulesError} (refused : readAmount position kind raw? = .error error) :
    error.IsConfiguration := by
  cases raw? with
  | none => cases refused
  | some raw =>
      rw [readAmount] at refused
      split at refused
      · cases refused
        exact ⟨_, rfl⟩
      · cases parsed : AmountFilter.parse raw with
        | ok filter => simp [parsed, Except.mapError, Except.map] at refused
        | error fault =>
            rw [parsed] at refused
            cases refused
            exact ⟨fault, rfl⟩

/-- The kind and the amount are faulted before the pattern is. -/
theorem MatchDefinition.compile_refused {definition : MatchDefinition} {position : Nat}
    {error : RulesError} (refused : definition.compile platform position = .error error) :
    error.IsConfiguration ∨ error.IsExcess platform definition.pattern := by
  rw [compile_eq, Except.bind_eq_error] at refused
  rcases refused with kind | ⟨kind, -, refused⟩
  · exact .inl (readKind_refused kind)
  rcases Except.bind_eq_error.mp refused with amount | ⟨amount, -, refused⟩
  · exact .inl (readAmount_refused amount)
  · exact Matcher.ofPattern_refused refused

namespace Rule

theorem ofDocument_refused {element : Json} {position : Nat} {error : RulesError}
    (refused : ofDocument platform position (.ofJson element) = .error error) :
    error.IsConfiguration ∨ (∃ text, element.HasPattern text ∧ error.IsExcess platform text) ∨
      error = .integerTooLong ∧ ¬element.IsWritable := by
  cases element with
  | object fields =>
      simp only [ofDocument, Document.ofJson] at refused
      cases own : Definition.rule (Document.ofFields fields) with
      | error errors =>
          rw [own] at refused
          obtain rfl := Except.error.inj refused
          unfold Rule.refusal
          split
          · rename_i ended
            refine .inr (.inr ⟨rfl, fun writable => ?_⟩)
            have unended := Definition.unended_rule writable
            rw [own] at unended
            exact Bool.false_ne_true (unended.symm.trans ended)
          · cases errors <;> exact .inl ⟨_, rfl⟩
      | ok definition =>
          obtain ⟨⟨form, found, gives⟩, -, -⟩ := Definition.rule_iff.mp own
          rw [own] at refused
          have compiled := Except.map_eq_error.mp refused
          generalize definition.matchForm = given at gives compiled
          cases gives with
          | text means =>
              rcases Matcher.ofPattern_refused compiled with known | excess
              · exact .inl known
              · exact .inr (.inl ⟨_, ⟨fields, rfl, form, found, .inl means⟩, excess⟩)
          | clauses gives =>
              rcases MatchDefinition.compile_refused compiled with known | excess
              · exact .inl known
              · exact .inr (.inl
                  ⟨_, ⟨fields, rfl, _, found, .inr ⟨_, rfl, gives.pattern⟩⟩, excess⟩)
  | _ =>
      cases refused
      exact .inl ⟨_, rfl⟩

end Rule

/-- The first faulty document decides, whatever follows it. -/
theorem compileFrom_eq_error {documents : List Document} {position : Nat} {error : RulesError} :
    compileFrom platform position documents = .error error ↔
      ∃ before document after, documents = before ++ document :: after ∧
        (∃ rules, compileFrom platform position before = .ok rules) ∧
        Rule.ofDocument platform (position + before.length) document = .error error := by
  induction documents generalizing position with
  | nil => simp [compileFrom]
  | cons first rest ih =>
      simp only [compileFrom, Except.bind_eq_error, ih]
      constructor
      · rintro (own | ⟨rule, own, ⟨before, document, after, rfl, ⟨rules, done⟩, failed⟩ |
          ⟨_, _, never⟩⟩)
        · exact ⟨[], first, rest, rfl, ⟨[], rfl⟩, own⟩
        · refine ⟨first :: before, document, after, rfl, ⟨rule :: rules, ?_⟩, ?_⟩
          · rw [compileFrom, own, done]
            rfl
          · rwa [List.length_cons, Nat.add_comm before.length, ← Nat.add_assoc]
        · cases never
      · rintro ⟨before, document, after, split, ⟨rules, done⟩, failed⟩
        cases before with
        | nil =>
            obtain ⟨rfl, rfl⟩ := List.cons.inj split
            exact .inl failed
        | cons _ before =>
            obtain ⟨rfl, rfl⟩ := List.cons.inj split
            simp only [compileFrom, Except.bind_eq_ok] at done
            obtain ⟨rule, own, others, later, -⟩ := done
            rw [List.length_cons, Nat.add_comm before.length, ← Nat.add_assoc] at failed
            exact .inr ⟨rule, own, .inl ⟨before, document, after, rfl, ⟨others, later⟩, failed⟩⟩

theorem ruleDocuments_refused {document : Document} {error : ConfigurationError}
    (refused : ruleDocuments document = .error error) : error = .documentForm := by
  unfold ruleDocuments at refused
  dsimp only at refused
  split at refused
  · cases refused
  · split at refused
    · split at refused
      · cases refused
      · split at refused <;> cases refused
        rfl
    · cases refused
      rfl
  · split at refused <;> cases refused
    rfl

end Refused

/-- A rules document is compiled; or it has not the form of one; or it is refused for the first
element that is no rule, with the error that this element has at its place, whatever follows. -/
theorem compiled_or_refused_for_first (platform : Platform) (document : Json) :
    (∃ rules, compileRules platform (.ofJson document) = .ok rules) ∨
      (compileRules platform (.ofJson document) = .error (.configuration .documentForm) ∧
        ¬∃ elements, document.HasElements elements) ∨
      ∃ before element after error, document.HasElements (before ++ element :: after) ∧
        (∀ earlier ∈ before, earlier.IsRule platform) ∧ ¬element.IsRule platform ∧
        compileRules platform (.ofJson document) = .error error ∧
        Rule.ofDocument platform before.length (.ofJson element) = .error error ∧
        (error.IsConfiguration ∨
          (∃ text, element.HasPattern text ∧ error.IsExcess platform text) ∨
          error = .integerTooLong ∧ ¬element.IsWritable) := by
  cases compiled : compileRules platform (.ofJson document) with
  | ok rules => exact .inl ⟨rules, rfl⟩
  | error error =>
      refine .inr ?_
      cases listed : ruleDocuments (.ofJson document) with
      | error fault =>
          obtain rfl := ruleDocuments_refused listed
          simp only [compileRules, listed, Except.mapError] at compiled
          refine .inl ⟨compiled.symm, ?_⟩
          rintro ⟨elements, has⟩
          rw [ruleDocuments_iff.mpr ⟨elements, has, rfl⟩] at listed
          cases listed
      | ok documents =>
          obtain ⟨elements, has, rfl⟩ := ruleDocuments_iff.mp listed
          simp only [compileRules, listed, Except.mapError] at compiled
          obtain ⟨_, _, _, split, ⟨rules, done⟩, failed⟩ := compileFrom_eq_error.mp compiled
          obtain ⟨before, _, rfl, rfl, behind⟩ := List.map_eq_append_iff.mp split
          obtain ⟨element, after, rfl, rfl, rfl⟩ := List.map_eq_cons_iff.mp behind
          rw [Nat.zero_add, List.length_map] at failed
          have isRules := (exists_described 0).mp ⟨rules, compileFrom_iff.mp done⟩
          refine .inr ⟨before, element, after, error, has, isRules, ?_, rfl, failed,
            Rule.ofDocument_refused failed⟩
          rw [Json.isRule_iff before.length]
          rintro ⟨rule, describes⟩
          rw [Rule.ofDocument_iff.mpr describes] at failed
          cases failed

/-- One rule, with a pattern for very many letters. -/
def manyLetters : Json :=
  .array [.object [("match", .string "a\x7b4294967296\x7d"), ("category", .string "Food")]]

/-- Too large a number of repetitions is no fault of the configuration. -/
theorem manyLetters_escape :
    ¬((∃ rules, compileRules .plain (.ofJson manyLetters) = .ok rules) ∨
      ∃ fault, compileRules .plain (.ofJson manyLetters) = .error (.configuration fault)) := by
  have refused : compileRules .plain (.ofJson manyLetters) = .error .repetitionTooLarge := by rfl
  simp [refused]

end LedgerRules
