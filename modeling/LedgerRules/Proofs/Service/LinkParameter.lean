import LedgerRules.Proofs.Service.Relation

/-!
The parameters of a link. A parameter is a name and a value, which is a word or a text in quotes; it
is written behind a semicolon, with blanks wherever a separator stands. What is read of parameters
ends at the first comma, even where it is part of a value.
-/

namespace LedgerRules

open Text (isBlank dropBlanks Stops)

/-- A character of names, and of values that are not in quotes. -/
def isWordCharacter (character : Char) : Bool :=
  !isBlank character && character != '"' && character != '\\' && character != ',' &&
    character != ';'

structure LinkParameter where
  name : String
  value : String
  quoted : Bool
  named : name ≠ "" ∧ ∀ character ∈ name.toList,
    isWordCharacter character ∧ character ≠ '=' ∧ character ≠ '<'
  worded : quoted = false →
    value ≠ "" ∧ ∀ character ∈ value.toList, isWordCharacter character

/-- In quotes, a quote and a backslash stand behind a backslash. -/
def escaped (text : List Char) : List Char :=
  text.flatMap fun character =>
    if character = '"' ∨ character = '\\' then ['\\', character] else [character]

namespace LinkParameter

def valueText (parameter : LinkParameter) : List Char :=
  if parameter.quoted then '"' :: (escaped parameter.value.toList ++ ['"'])
  else parameter.value.toList

inductive IsWritten (parameter : LinkParameter) : List Char → Prop where
  | spaced {before after gap : List Char} (blankBefore : ∀ character ∈ before, isBlank character)
      (blankAfter : ∀ character ∈ after, isBlank character)
      (blankGap : ∀ character ∈ gap, isBlank character) :
      IsWritten parameter
        (before ++ parameter.name.toList ++ after ++ '=' :: (gap ++ parameter.valueText))

inductive AreWritten : List LinkParameter → List Char → Prop where
  | none : AreWritten [] []
  | more {parameter : LinkParameter} {parameters : List LinkParameter} {gap text rest : List Char}
      (blank : ∀ character ∈ gap, isBlank character) (written : parameter.IsWritten text)
      (others : AreWritten parameters rest) :
      AreWritten (parameter :: parameters) (gap ++ ';' :: (text ++ rest))

/-! Names and values may be given in any case. -/

def IsRelation (parameter : LinkParameter) : Prop :=
  parameter.name.toList.map Char.toLower = "rel".toList

/-- Of the relation types in the value, with spaces between them, one is the next page. -/
def ListsNext (parameter : LinkParameter) : Prop :=
  ∃ type ∈ parameter.value.toList.splitOn ' ', type.map Char.toLower = "next".toList

def BeginsNext (parameter : LinkParameter) : Prop :=
  "next".toList <+: parameter.value.toList.map Char.toLower

/-- A name that ends in the name of the relation, and a value that begins with the word. -/
def SeemsNext (parameter : LinkParameter) : Prop :=
  Link.EndsInRelation parameter.name.toList ∧ parameter.BeginsNext

/-- The value up to its first comma. -/
def shown (parameter : LinkParameter) : List Char :=
  parameter.value.toList.takeWhile (· != ',')

instance (parameter : LinkParameter) : Decidable parameter.IsRelation :=
  inferInstanceAs (Decidable (_ = _))

instance (parameter : LinkParameter) : Decidable parameter.ListsNext :=
  inferInstanceAs (Decidable (∃ type ∈ parameter.value.toList.splitOn ' ', _))

instance (parameter : LinkParameter) : Decidable parameter.BeginsNext :=
  inferInstanceAs (Decidable (_ <+: _))

instance (parameter : LinkParameter) : Decidable parameter.SeemsNext :=
  inferInstanceAs (Decidable (_ ∧ _))

end LinkParameter

section Escaping

variable {character : Char} {text front rest : List Char}

theorem escaped_cons (character : Char) (text : List Char) :
    escaped (character :: text) =
      (if character = '"' ∨ character = '\\' then ['\\', character] else [character]) ++
        escaped text := rfl

theorem escaped_append (front rest : List Char) :
    escaped (front ++ rest) = escaped front ++ escaped rest :=
  List.flatMap_append

theorem mem_escaped (plain : character ≠ '\\') : character ∈ escaped text ↔ character ∈ text := by
  induction text with
  | nil => rfl
  | cons first rest ih =>
      rw [escaped_cons, List.mem_append, ih, List.mem_cons]
      by_cases special : first = '"' ∨ first = '\\'
      · simp [special, plain]
      · simp [special]

theorem escaped_eq_self (plain : '"' ∉ text ∧ '\\' ∉ text) : escaped text = text := by
  induction text with
  | nil => rfl
  | cons first rest ih =>
      simp only [List.mem_cons, not_or] at plain
      rw [escaped_cons, ih ⟨plain.1.2, plain.2.2⟩,
        if_neg (not_or.mpr ⟨Ne.symm plain.1.1, Ne.symm plain.2.1⟩)]
      rfl

theorem plain_of_escaped (plain : '\\' ∉ escaped text) : '"' ∉ text ∧ '\\' ∉ text := by
  induction text with
  | nil => simp
  | cons first rest ih =>
      rw [escaped_cons, List.mem_append, not_or] at plain
      by_cases special : first = '"' ∨ first = '\\'
      · simp [special] at plain
      · rw [not_or] at special
        obtain ⟨quote, backslash⟩ := ih plain.2
        simp [quote, backslash, Ne.symm special.1, Ne.symm special.2]

theorem prefix_escaped {word : List Char} (plain : '"' ∉ word ∧ '\\' ∉ word) :
    word <+: (escaped text).map Char.toLower ↔ word <+: text.map Char.toLower := by
  induction word generalizing text with
  | nil => simp
  | cons letter word ih =>
      simp only [List.mem_cons, not_or] at plain
      cases text with
      | nil => rfl
      | cons first rest =>
          have quote : Char.toLower '"' = '"' := rfl
          have backslash : Char.toLower '\\' = '\\' := rfl
          rw [escaped_cons]
          by_cases special : first = '"' ∨ first = '\\'
          · rcases special with rfl | rfl
            · simp [quote, backslash, Ne.symm plain.1.1, Ne.symm plain.2.1]
            · simp [backslash, Ne.symm plain.2.1]
          · simp [special, ih ⟨plain.1.2, plain.2.2⟩]

theorem suffix_escaped {word : List Char} (plain : '"' ∉ word ∧ '\\' ∉ word) :
    word <:+ escaped text ↔ word <:+ text := by
  induction text with
  | nil => rfl
  | cons first text ih =>
      rw [escaped_cons]
      by_cases special : first = '"' ∨ first = '\\'
      · -- A word that is plain ends before a character that is escaped.
        have differs : word ≠ '\\' :: first :: escaped text ∧ word ≠ first :: escaped text ∧
            word ≠ first :: text := by
          refine ⟨?_, ?_, ?_⟩ <;> rintro rfl <;> rcases special with rfl | rfl <;> simp at plain
        simp [special, List.suffix_cons_iff, ih, differs]
      · simp only [special, if_false, List.singleton_append, List.suffix_cons_iff, ih]
        refine or_congr_left ⟨?_, ?_⟩
        · rintro rfl
          rw [escaped_eq_self (plain_of_escaped (List.not_mem_of_not_mem_cons plain.2))]
        · rintro rfl
          rw [escaped_eq_self
            ⟨List.not_mem_of_not_mem_cons plain.1, List.not_mem_of_not_mem_cons plain.2⟩]

theorem eq_of_escaped {closing : List Char} (plain : character ≠ '"' ∧ character ≠ '\\')
    (absent : character ∉ closing) (split : escaped text ++ closing = front ++ character :: rest) :
    ∃ before behind, text = before ++ character :: behind ∧ front = escaped before ∧
      rest = escaped behind ++ closing := by
  induction text generalizing front with
  | nil =>
      rw [escaped, List.flatMap_nil, List.nil_append] at split
      exact absurd (split ▸ List.mem_append_cons_self) absent
  | cons first text ih =>
      rw [escaped_cons] at split
      by_cases special : first = '"' ∨ first = '\\'
      · rw [if_pos special] at split
        cases front with
        | nil => exact absurd (List.cons.inj split).1.symm plain.2
        | cons backslash front =>
            obtain ⟨rfl, within⟩ := List.cons.inj split
            cases front with
            | nil =>
                obtain rfl := (List.cons.inj within).1
                exact absurd special (not_or.mpr plain)
            | cons second front =>
                obtain ⟨rfl, others⟩ := List.cons.inj within
                obtain ⟨before, behind, rfl, rfl, rfl⟩ := ih others
                exact ⟨first :: before, behind, rfl, by simp [escaped_cons, special], rfl⟩
      · rw [if_neg special] at split
        cases front with
        | nil =>
            obtain ⟨rfl, rfl⟩ := List.cons.inj split
            exact ⟨[], text, rfl, rfl, rfl⟩
        | cons second front =>
            obtain ⟨rfl, others⟩ := List.cons.inj split
            obtain ⟨before, behind, rfl, rfl, rfl⟩ := ih others
            exact ⟨first :: before, behind, rfl, by simp [escaped_cons, special], rfl⟩

end Escaping

namespace Link

/-- A relation to the next page, without quotes, stands somewhere in the text. -/
def MentionsNext (text : List Char) : Prop :=
  ∃ front rest, text = front ++ '=' :: rest ∧
    (∃ relation, relation <:+ front ∧ IsRelation relation) ∧
    "next".toList <+: (dropBlanks rest).map Char.toLower

def Closes (closing : List Char) : Prop :=
  ∃ gap, (∀ character ∈ gap, isBlank character) ∧ (closing = gap ∨ closing = '"' :: gap)

theorem IsRelation.plain {relation : List Char} (named : IsRelation relation) :
    '"' ∉ relation ∧ '\\' ∉ relation := by
  obtain ⟨name, gap, rfl, letters, blank⟩ := named
  have absent {character : Char} (letter : character.toLower ∉ "rel".toList)
      (solid : isBlank character = false) : character ∉ name ++ gap := by
    rw [List.mem_append, not_or]
    exact ⟨fun member => letter (letters ▸ List.mem_map_of_mem member),
      Text.not_mem_of_blank blank solid⟩
  exact ⟨absent (by decide) (by decide), absent (by decide) (by decide)⟩

theorem dropBlanks_append {gap rest : List Char} (blank : ∀ character ∈ gap, isBlank character)
    (stops : Stops isBlank rest) : dropBlanks (gap ++ rest) = rest :=
  stops.dropWhile_append blank

theorem next_prefix_append {text closing : List Char} (closes : Closes closing) :
    "next".toList <+: (text ++ closing).map Char.toLower ↔
      "next".toList <+: text.map Char.toLower := by
  obtain ⟨gap, blank, rfl | rfl⟩ := closes
  · cases closing with
    | nil => rw [List.append_nil]
    | cons first gap =>
        have own := blank first List.mem_cons_self
        have absent : first ∉ "next".toList := by
          intro member
          simp only [String.reduceToList, List.mem_cons, List.not_mem_nil, or_false] at member
          rcases member with rfl | rfl | rfl | rfl <;> cases own
        rw [List.map_append, List.map_cons, Text.toLower_of_blank own,
          prefix_append_cons_iff absent]
  · rw [List.map_append, List.map_cons, prefix_append_cons_iff (by decide)]

theorem Closes.solid {closing : List Char} (closes : Closes closing) :
    ¬"next".toList <+: (withoutQuote (dropBlanks closing)).map Char.toLower := by
  obtain ⟨gap, blank, rfl | rfl⟩ := closes
  · rw [dropBlanks, List.dropWhile_eq_nil_iff.mpr blank]
    decide
  · have quote : withoutQuote (dropBlanks ('"' :: gap)) = [] ++ gap := rfl
    rw [quote, next_prefix_append ⟨gap, blank, .inl rfl⟩]
    decide

theorem relatesNext_escaped {text closing : List Char} (closes : Closes closing) :
    relatesNext (escaped text ++ closing) = true ↔
      "next".toList <+: (dropBlanks text).map Char.toLower := by
  rw [relatesNext, afterWord?_isSome]
  induction text with
  | nil =>
      have never : ¬"next".toList <+: (dropBlanks []).map Char.toLower := by decide
      exact iff_of_false closes.solid never
  | cons first rest ih =>
      by_cases blank : isBlank first = true
      · have plain : ¬(first = '"' ∨ first = '\\') := by
          rintro (rfl | rfl) <;> cases blank
        simpa [escaped_cons, plain, dropBlanks, blank] using ih
      · have stays : withoutQuote (dropBlanks (escaped (first :: rest) ++ closing)) =
            escaped (first :: rest) ++ closing := by
          by_cases special : first = '"' ∨ first = '\\'
          · have backslash : isBlank '\\' = false := rfl
            simp [escaped_cons, special, dropBlanks, backslash, withoutQuote]
          · simp [escaped_cons, dropBlanks, blank, withoutQuote, not_or.mp special]
        rw [stays, next_prefix_append closes, prefix_escaped (by decide), dropBlanks,
          List.dropWhile_cons_of_neg blank]

theorem isNext_escaped {text closing : List Char} (closes : Closes closing) :
    isNext (escaped text ++ closing) = true ↔ MentionsNext text := by
  have absent : '=' ∉ closing := by
    obtain ⟨gap, blank, rfl | rfl⟩ := closes
    · exact Text.not_mem_of_blank blank rfl
    · simp only [List.mem_cons, not_or]
      exact ⟨by decide, Text.not_mem_of_blank blank rfl⟩
  rw [isNext_iff]
  constructor
  · rintro ⟨front, rest, split, ⟨relation, within, named⟩, relates⟩
    obtain ⟨before, behind, rfl, rfl, rfl⟩ := eq_of_escaped (by decide) absent split
    exact ⟨before, behind, rfl, ⟨relation, (suffix_escaped named.plain).mp within, named⟩,
      (relatesNext_escaped closes).mp relates⟩
  · rintro ⟨front, rest, rfl, ⟨relation, within, named⟩, relates⟩
    refine ⟨escaped front, escaped rest ++ closing, by simp [escaped_append, escaped_cons],
      ⟨relation, (suffix_escaped named.plain).mpr within, named⟩,
      (relatesNext_escaped closes).mpr relates⟩

instance (text : List Char) : Decidable (MentionsNext text) :=
  decidable_of_iff (isNext (escaped text ++ []) = true) (isNext_escaped ⟨[], by simp, .inl rfl⟩)

end Link

namespace LinkParameter

open Link

variable {parameter : LinkParameter}

theorem word_plain {character : Char} (word : isWordCharacter character) :
    isBlank character = false ∧ character ≠ '"' ∧ character ≠ '\\' ∧ character ≠ ',' ∧
      character ≠ ';' := by
  simpa [isWordCharacter, and_assoc] using word

theorem comma_not_mem_name (parameter : LinkParameter) : ',' ∉ parameter.name.toList :=
  fun member => (word_plain (parameter.named.2 _ member).1).2.2.2.1 rfl

theorem shown_eq_self (absent : ',' ∉ parameter.value.toList) :
    parameter.shown = parameter.value.toList := by
  have differs := Text.differs_of_not_mem absent
  have whole := (Stops.nil : Stops (· != ',') []).takeWhile_append differs
  rwa [List.append_nil] at whole

theorem shown_of_comma {front rest : List Char}
    (split : parameter.value.toList = front ++ ',' :: rest) (absent : ',' ∉ front) :
    parameter.shown = front := by
  have stops : Stops (· != ',') (',' :: rest) := .cons (by decide)
  rw [shown, split]
  exact stops.takeWhile_append (Text.differs_of_not_mem absent)

theorem quoted_of_comma (comma : ',' ∈ parameter.value.toList) : parameter.quoted = true := by
  by_contra unquoted
  have words := (parameter.worded (by simpa using unquoted)).2
  exact (word_plain (words _ comma)).2.2.2.1 rfl

theorem beginsNext_iff (parameter : LinkParameter) :
    parameter.BeginsNext ↔ "next".toList <+: parameter.shown.map Char.toLower := by
  by_cases comma : ',' ∈ parameter.value.toList
  · obtain ⟨front, rest, split, absent⟩ := List.eq_append_cons_of_mem comma
    rw [BeginsNext, shown_of_comma split absent, split, List.map_append, List.map_cons,
      prefix_append_cons_iff (by decide)]
  · rw [shown_eq_self comma, BeginsNext]

theorem isNext_spaced (parameter : LinkParameter) {before after : List Char}
    (blankBefore : ∀ character ∈ before, isBlank character)
    (blankAfter : ∀ character ∈ after, isBlank character) (region : List Char) :
    isNext (before ++ parameter.name.toList ++ after ++ '=' :: region) = true ↔
      EndsInRelation parameter.name.toList ∧ relatesNext region = true ∨
        isNext region = true := by
  have filled : parameter.name.toList ≠ [] := by
    simpa [String.toList_eq_nil_iff] using parameter.named.1
  have solid : ∀ character ∈ parameter.name.toList, isBlank character = false :=
    fun character member => (word_plain (parameter.named.2 character member).1).1
  have absent : '=' ∉ before ++ parameter.name.toList ++ after := by
    simp only [List.mem_append, not_or]
    exact ⟨⟨Text.not_mem_of_blank blankBefore rfl,
      fun member => (parameter.named.2 _ member).2.1 rfl⟩, Text.not_mem_of_blank blankAfter rfl⟩
  rw [isNext_append_equals absent, exists_relation_iff blankBefore blankAfter filled solid]

theorem isNext_quoted (parameter : LinkParameter) {before after gap closing : List Char}
    (blankBefore : ∀ character ∈ before, isBlank character)
    (blankAfter : ∀ character ∈ after, isBlank character)
    (blankGap : ∀ character ∈ gap, isBlank character) (closes : Closes closing) :
    isNext (before ++ parameter.name.toList ++ after ++
        '=' :: (gap ++ '"' :: (escaped parameter.shown ++ closing))) = true ↔
      parameter.SeemsNext ∨ MentionsNext parameter.shown := by
  have relates : relatesNext (gap ++ '"' :: (escaped parameter.shown ++ closing)) = true ↔
      parameter.BeginsNext := by
    rw [relatesNext, dropBlanks_append blankGap (.cons rfl), withoutQuote, afterWord?_isSome,
      next_prefix_append closes, prefix_escaped (by decide), beginsNext_iff]
  have within : isNext (gap ++ '"' :: (escaped parameter.shown ++ closing)) =
      isNext (escaped parameter.shown ++ closing) := by
    have quote (rest : List Char) : isNext ('"' :: rest) = isNext rest := rfl
    rw [isNext_append_blanks blankGap, quote]
  rw [isNext_spaced parameter blankBefore blankAfter, relates, within, isNext_escaped closes,
    SeemsNext]

theorem isNext_plain (parameter : LinkParameter) {before after gap behind : List Char}
    (blankBefore : ∀ character ∈ before, isBlank character)
    (blankAfter : ∀ character ∈ after, isBlank character)
    (blankGap : ∀ character ∈ gap, isBlank character) (unquoted : parameter.quoted = false)
    (blankBehind : ∀ character ∈ behind, isBlank character) :
    isNext (before ++ parameter.name.toList ++ after ++
        '=' :: (gap ++ (parameter.value.toList ++ behind))) = true ↔
      parameter.SeemsNext ∨ MentionsNext parameter.shown := by
  obtain ⟨filled, words⟩ := parameter.worded unquoted
  have plain (character : Char) (member : character ∈ parameter.value.toList) :=
    word_plain (words character member)
  have shown : parameter.shown = parameter.value.toList :=
    shown_eq_self fun comma => (plain _ comma).2.2.2.1 rfl
  have unescaped : escaped parameter.value.toList = parameter.value.toList :=
    escaped_eq_self ⟨fun quote => (plain _ quote).2.1 rfl,
      fun backslash => (plain _ backslash).2.2.1 rfl⟩
  have closes : Closes behind := ⟨behind, blankBehind, .inl rfl⟩
  have relates : relatesNext (gap ++ (parameter.value.toList ++ behind)) = true ↔
      parameter.BeginsNext := by
    have begins : relatesNext (gap ++ (parameter.value.toList ++ behind)) =
        relatesNext (parameter.value.toList ++ behind) := by
      rw [relatesNext, dropBlanks, List.dropWhile_append_of_pos blankGap]
      rfl
    have stays : dropBlanks parameter.value.toList = parameter.value.toList := by
      apply Stops.dropWhile_eq_self
      exact fun character head => (plain character (List.mem_of_mem_head? head)).1
    have either : relatesNext (escaped parameter.value.toList ++ behind) = true ↔ _ :=
      relatesNext_escaped closes
    rw [unescaped, stays] at either
    rw [begins, either, BeginsNext]
  have within : isNext (escaped parameter.value.toList ++ behind) = true ↔ _ :=
    isNext_escaped closes
  rw [unescaped] at within
  rw [isNext_spaced parameter blankBefore blankAfter, relates, isNext_append_blanks blankGap,
    within, SeemsNext, shown]

end LinkParameter

end LedgerRules
