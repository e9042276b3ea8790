import LedgerRules.Proofs.Text.Split
import LedgerRules.Rules.AmountFilter

/-!
The grammar of amount filters. A filter is a symbol and a magnitude with blanks around both. The
symbol ends where blanks begin, or where a character stands that can begin a number, so that there
is only one way to take a filter apart. What cannot be taken apart so is refused.
-/

namespace LedgerRules

open Text

namespace Comparator

/-- The symbols that a comparator is written with. -/
def symbols : Comparator → List String
  | .equal => ["=", "=="]
  | .greater => [">"]
  | .atLeast => [">=", "≥"]
  | .less => ["<"]
  | .atMost => ["<=", "≤"]

theorem ofSymbol?_eq_some_iff {symbol : String} {comparator : Comparator} :
    ofSymbol? symbol = some comparator ↔ symbol ∈ comparator.symbols := by
  constructor
  · intro known
    simp only [ofSymbol?] at known
    split at known
    next same => cases known; simpa [symbols] using same
    next =>
      split at known
      next same => cases known; simpa [symbols] using same
      next =>
        split at known
        next same => cases known; simpa [symbols] using same
        next =>
          split at known
          next same => cases known; simpa [symbols] using same
          next =>
            split at known
            next same => cases known; simpa [symbols] using same
            next => cases known
  · intro listed
    cases comparator <;> simp only [symbols, List.mem_cons, List.not_mem_nil, or_false] at listed
    case equal => rcases listed with rfl | rfl <;> rfl
    case greater => subst listed; rfl
    case atLeast => rcases listed with rfl | rfl <;> rfl
    case less => subst listed; rfl
    case atMost => rcases listed with rfl | rfl <;> rfl

end Comparator

namespace AmountFilter

theorem isBlank_of_isSymbolCharacter {character : Char} (symbolic : isSymbolCharacter character) :
    isBlank character = false := by
  cases blank : isBlank character with
  | false => rfl
  | true => simp [isSymbolCharacter, blank] at symbolic

/-- The parts of a filter in their order. -/
structure Parts where
  before : List Char
  symbol : List Char
  separator : List Char
  magnitude : List Char
  after : List Char

namespace Parts

def text (parts : Parts) : List Char :=
  parts.before ++ (parts.symbol ++ (parts.separator ++ (parts.magnitude ++ parts.after)))

/-- Blanks stand around the symbol and the magnitude; where none stands between them, the magnitude
begins with a character of which no symbol is made. -/
structure AreSeparated (parts : Parts) : Prop where
  blankBefore : ∀ character ∈ parts.before, isBlank character
  symbolic : ∀ character ∈ parts.symbol, isSymbolCharacter character
  named : parts.symbol ≠ []
  blankBetween : ∀ character ∈ parts.separator, isBlank character
  solid : ∀ character ∈ parts.magnitude, isBlank character = false
  filled : parts.magnitude ≠ []
  blankAfter : ∀ character ∈ parts.after, isBlank character
  separated : parts.separator ≠ [] ∨
    ∀ character ∈ parts.magnitude.head?, isSymbolCharacter character = false

/-- The parts of a text, each as long as it can be. -/
def cut (text : List Char) : Parts :=
  let start := dropBlanks text
  let behind := start.dropWhile isSymbolCharacter
  let rest := dropBlanks behind
  { before := text.takeWhile isBlank
    symbol := start.takeWhile isSymbolCharacter
    separator := behind.takeWhile isBlank
    magnitude := rest.takeWhile fun character => !isBlank character
    after := rest.dropWhile fun character => !isBlank character }

theorem behind_cut (text : List Char) :
    (cut text).separator ++ ((cut text).magnitude ++ (cut text).after) =
      (dropBlanks text).dropWhile isSymbolCharacter := by
  simp only [cut, dropBlanks, List.takeWhile_append_dropWhile]

theorem text_cut (text : List Char) : (cut text).text = text := by
  rw [Parts.text, behind_cut]
  simp only [cut, dropBlanks, List.takeWhile_append_dropWhile]

theorem cut_text {parts : Parts} (separated : parts.AreSeparated) : cut parts.text = parts := by
  obtain ⟨before, symbol, separator, magnitude, after⟩ := parts
  have solid : ∀ character ∈ magnitude, (!isBlank character) = true := by
    intro character member
    simp [separated.solid character member]
  have stopsAfter : Stops (fun character => !isBlank character) after := by
    intro character first
    simp [separated.blankAfter character (List.mem_of_mem_head? first)]
  have stopsBetween : Stops isBlank (magnitude ++ after) := by
    intro character first
    rw [List.head?_append_of_ne_nil _ separated.filled] at first
    exact separated.solid character (List.mem_of_mem_head? first)
  have stopsSymbol : Stops isSymbolCharacter (separator ++ (magnitude ++ after)) := by
    intro character first
    by_cases joined : separator = []
    · rw [joined, List.nil_append, List.head?_append_of_ne_nil _ separated.filled] at first
      exact separated.separated.resolve_left (not_not.mpr joined) character first
    · rw [List.head?_append_of_ne_nil _ joined] at first
      have blank := separated.blankBetween character (List.mem_of_mem_head? first)
      by_contra symbolic
      rw [isBlank_of_isSymbolCharacter (by simpa using symbolic)] at blank
      cases blank
  have stopsBefore : Stops isBlank (symbol ++ (separator ++ (magnitude ++ after))) := by
    intro character first
    rw [List.head?_append_of_ne_nil _ separated.named] at first
    exact isBlank_of_isSymbolCharacter (separated.symbolic character (List.mem_of_mem_head? first))
  simp only [cut, Parts.text, dropBlanks, stopsBefore.dropWhile_append separated.blankBefore,
    stopsBefore.takeWhile_append separated.blankBefore,
    stopsSymbol.dropWhile_append separated.symbolic,
    stopsSymbol.takeWhile_append separated.symbolic,
    stopsBetween.dropWhile_append separated.blankBetween,
    stopsBetween.takeWhile_append separated.blankBetween, stopsAfter.dropWhile_append solid,
    stopsAfter.takeWhile_append solid]

theorem areSeparated_cut {text : List Char} (named : (cut text).symbol ≠ [])
    (filled : (cut text).magnitude ≠ [])
    (blank : ∀ character ∈ (cut text).after, isBlank character) :
    (cut text).AreSeparated where
  blankBefore _ member := List.mem_takeWhile_imp member
  symbolic _ member := List.mem_takeWhile_imp member
  named := named
  blankBetween _ member := List.mem_takeWhile_imp member
  solid := by
    intro character member
    have kept := List.mem_takeWhile_imp (p := fun character => !isBlank character) member
    simpa using kept
  filled := filled
  blankAfter := blank
  separated := by
    by_cases joined : (cut text).separator = []
    · right
      intro character first
      have stopped := List.head?_dropWhile_not isSymbolCharacter (dropBlanks text)
      rw [← behind_cut, joined, List.nil_append, List.head?_append_of_ne_nil _ filled,
        Option.mem_def.mp first] at stopped
      exact stopped
    · exact .inl joined

end Parts

theorem split?_eq (text : List Char) :
    split? text =
      if (Parts.cut text).symbol.isEmpty || !(Parts.cut text).after.all isBlank then none
      else if !(Parts.cut text).magnitude.isEmpty then
        some ((Parts.cut text).symbol, (Parts.cut text).magnitude)
      else
        match (Parts.cut text).symbol.reverse with
        | last :: first :: others => some ((first :: others).reverse, [last])
        | _ => none := rfl

theorem split?_text {parts : Parts} (separated : parts.AreSeparated) :
    split? parts.text = some (parts.symbol, parts.magnitude) := by
  have blank : parts.after.all isBlank = true := List.all_eq_true.mpr separated.blankAfter
  simp [split?_eq, Parts.cut_text separated, separated.named, separated.filled, blank]

theorem split?_cases {text symbol magnitude : List Char}
    (split : split? text = some (symbol, magnitude)) :
    (∃ parts : Parts, parts.AreSeparated ∧ parts.text = text ∧ parts.symbol = symbol ∧
        parts.magnitude = magnitude) ∨
      ∃ character, isSymbolCharacter character ∧ magnitude = [character] := by
  rw [split?_eq] at split
  split at split
  next => cases split
  next whole =>
    simp only [Bool.or_eq_true, List.isEmpty_iff, Bool.not_eq_true', not_or, Bool.not_eq_false,
      List.all_eq_true] at whole
    split at split
    next filled =>
      obtain ⟨rfl, rfl⟩ := Prod.mk.inj (Option.some.inj split)
      have separated := Parts.areSeparated_cut whole.1 (by simpa using filled) whole.2
      exact .inl ⟨Parts.cut text, separated, Parts.text_cut text, rfl, rfl⟩
    next =>
      split at split
      next last first others reversed =>
        obtain ⟨_, rfl⟩ := Prod.mk.inj (Option.some.inj split)
        have member : last ∈ (Parts.cut text).symbol := by
          rw [← List.mem_reverse, reversed]
          exact List.mem_cons_self
        exact .inr ⟨last, List.mem_takeWhile_imp member, rfl⟩
      next => cases split

theorem readUnsigned_of_undigited {first : Char} (plain : first.isDigit = false)
    (point : first ≠ '.') (negative : Bool) (rest : List Char) :
    Double.readUnsigned negative (first :: rest) = none := by
  have nothing : takeDigits (first :: rest) = ([], first :: rest) := by
    simp [takeDigits, plain]
  simp only [Double.readUnsigned, nothing]
  split
  next same => exact absurd (List.cons.inj same).1 point
  next => rfl

theorem read?_symbolCharacter {character : Char} (symbolic : isSymbolCharacter character) :
    Double.read? (String.ofList [character]) = none := by
  have solid := isBlank_of_isSymbolCharacter symbolic
  simp only [isSymbolCharacter, solid, Bool.or_false, Bool.not_eq_true', Bool.or_eq_false_iff,
    beq_eq_false_iff_ne] at symbolic
  obtain ⟨⟨⟨digit, point⟩, plus⟩, minus⟩ := symbolic
  have trimmed : trimBlanks [character] = [character] :=
    trimBlanks_eq_self (by simpa using solid)
  have undigited : digitValue? character = none := by simpa [isDigit] using digit
  have kept : asciiDigits [character] = [character] := by simp [asciiDigits, undigited]
  have plain : character.isDigit = false := by
    by_contra ascii
    have bounds : 48 ≤ character.toNat ∧ character.toNat ≤ 57 := by
      simpa [Char.isDigit, UInt32.le_iff_toNat_le] using ascii
    simp [digitValue?, bounds.1, bounds.2, show character.toNat < 128 by omega] at undigited
  have unread : Double.readCharacters [character] = none := by
    have unsigned : takeSign [character] = (false, [character]) := by
      unfold takeSign
      split <;> simp_all
    have short (word : String) (long : word.length ≠ 1) :
        (String.ofList (lowerAscii [character]) == word) = false := by
      rw [beq_eq_false_iff_ne]
      rintro rfl
      simp [lowerAscii] at long
    simp only [Double.readCharacters, unsigned, short "inf" (by decide),
      short "infinity" (by decide), short "nan" (by decide), Bool.or_self, Bool.false_eq_true,
      if_false, readUnsigned_of_undigited plain point]
  by_cases line : character = '_'
  · subst line
    rfl
  · simp [Double.read?, trimmed, kept, dropSeparators, unread]

/-- A text is made of parts that say what the filter asks for: its comparator by a symbol, and its
magnitude by a number that is not below zero. -/
structure IsWritten (filter : AmountFilter) (raw : String) (parts : Parts) : Prop where
  joined : raw.toList =
    parts.before ++ (parts.symbol ++ (parts.separator ++ (parts.magnitude ++ parts.after)))
  blankBefore : ∀ character ∈ parts.before, isBlank character
  known : String.ofList parts.symbol ∈ filter.comparator.symbols
  blankBetween : ∀ character ∈ parts.separator, isBlank character
  filled : parts.magnitude ≠ []
  solid : ∀ character ∈ parts.magnitude, isBlank character = false
  read : Double.read? (String.ofList parts.magnitude) = some filter.magnitude
  ordered : filter.magnitude ≠ .notANumber
  unsigned : filter.magnitude.less (.zero false) = false
  blankAfter : ∀ character ∈ parts.after, isBlank character
  separated : parts.separator ≠ [] ∨ ∃ first ∈ parts.magnitude.head?,
    isDigit first ∨ first = '.' ∨ first = '+' ∨ first = '-'

section Parsing

variable {filter : AmountFilter} {raw : String}

theorem isSymbolCharacter_eq_false {character : Char} (solid : isBlank character = false) :
    isSymbolCharacter character = false ↔
      isDigit character ∨ character = '.' ∨ character = '+' ∨ character = '-' := by
  simp only [isSymbolCharacter, solid, Bool.or_false, Bool.not_eq_false', Bool.or_eq_true,
    beq_iff_eq, or_assoc]

theorem symbolic_of_known {symbol : String} {comparator : Comparator}
    (known : symbol ∈ comparator.symbols) :
    symbol.toList ≠ [] ∧ ∀ character ∈ symbol.toList, isSymbolCharacter character := by
  have all : (comparator.symbols.all fun symbol =>
      !symbol.toList.isEmpty && symbol.toList.all isSymbolCharacter) = true := by
    cases comparator <;> decide +kernel
  have own := List.all_eq_true.mp all symbol known
  simpa only [Bool.and_eq_true, Bool.not_eq_true', List.isEmpty_eq_false_iff,
    List.all_eq_true] using own

theorem IsWritten.areSeparated {parts : Parts} (written : filter.IsWritten raw parts) :
    parts.AreSeparated where
  blankBefore := written.blankBefore
  symbolic := by simpa using (symbolic_of_known written.known).2
  named := by simpa using (symbolic_of_known written.known).1
  blankBetween := written.blankBetween
  solid := written.solid
  filled := written.filled
  blankAfter := written.blankAfter
  separated := by
    refine written.separated.imp_right ?_
    rintro ⟨first, begins, numeric⟩ character member
    obtain rfl := Option.some.inj (begins.symm.trans member)
    exact (isSymbolCharacter_eq_false (written.solid _ (List.mem_of_mem_head? begins))).mpr numeric

theorem parse_eq_ok : parse raw = .ok filter ↔
    ∃ symbol magnitude, split? raw.toList = some (symbol, magnitude) ∧
      Comparator.ofSymbol? (String.ofList symbol) = some filter.comparator ∧
      Double.read? (String.ofList magnitude) = some filter.magnitude ∧
      filter.magnitude ≠ .notANumber ∧ filter.magnitude.less (.zero false) = false := by
  have ordered_iff (value : Double) : value.isNotANumber = false ↔ value ≠ .notANumber := by
    cases value <;> simp [Double.isNotANumber]
  obtain ⟨comparator, magnitude⟩ := filter
  constructor
  · intro parsed
    simp only [parse] at parsed
    split at parsed
    next => cases parsed
    next symbol text split =>
      split at parsed
      next => cases parsed
      next known =>
        split at parsed
        next => cases parsed
        next value read =>
          split at parsed
          next => cases parsed
          next fine =>
            cases parsed
            rw [Bool.or_eq_true, not_or, Bool.not_eq_true, Bool.not_eq_true, ordered_iff] at fine
            exact ⟨symbol, text, split, known, read, fine⟩
  · rintro ⟨symbol, text, split, known, read, ordered, unsigned⟩
    have counted := (ordered_iff magnitude).mpr ordered
    have positive : magnitude.isNegative = false := unsigned
    simp only [parse, split, known, read, counted, positive, Bool.or_self, Bool.false_eq_true,
      if_false]

theorem isWritten_of_parse (parsed : parse raw = .ok filter) :
    ∃ parts, filter.IsWritten raw parts := by
  obtain ⟨symbol, magnitude, split, known, read, ordered, unsigned⟩ := parse_eq_ok.mp parsed
  rcases split?_cases split with ⟨parts, separated, joined, rfl, rfl⟩ | ⟨character, symbolic, rfl⟩
  · refine ⟨parts, joined.symm, separated.blankBefore, Comparator.ofSymbol?_eq_some_iff.mp known,
      separated.blankBetween, separated.filled, separated.solid, read, ordered, unsigned,
      separated.blankAfter, separated.separated.imp_right ?_⟩
    intro numeric
    obtain ⟨first, rest, same⟩ := List.exists_cons_of_ne_nil separated.filled
    have begins : first ∈ parts.magnitude.head? := by simp [same]
    have solid := separated.solid first (List.mem_of_mem_head? begins)
    exact ⟨first, begins, (isSymbolCharacter_eq_false solid).mp (numeric first begins)⟩
  · rw [read?_symbolCharacter symbolic] at read
    cases read

theorem IsWritten.parse {parts : Parts} (written : filter.IsWritten raw parts) :
    parse raw = .ok filter := by
  have split := split?_text written.areSeparated
  have joined : parts.text = raw.toList := written.joined.symm
  rw [joined] at split
  exact parse_eq_ok.mpr ⟨_, _, split, Comparator.ofSymbol?_eq_some_iff.mpr written.known,
    written.read, written.ordered, written.unsigned⟩

end Parsing

/-- Reading gives a filter if and only if the text is made of parts that say what the filter asks
for. There is one way at most to take a text apart so, and any other text is refused. -/
theorem parse_iff_written (raw : String) :
    (∀ filter, parse raw = .ok filter ↔ ∃ parts, filter.IsWritten raw parts) ∧
      (∀ (filter other : AmountFilter) (parts others : Parts), filter.IsWritten raw parts →
        other.IsWritten raw others → filter = other ∧ parts = others) ∧
      ((¬∃ filter parts, IsWritten filter raw parts) → ∃ error, parse raw = .error error) := by
  refine ⟨fun filter => ⟨isWritten_of_parse, fun ⟨_, written⟩ => written.parse⟩, ?_, ?_⟩
  · intro filter other parts others written writtenToo
    constructor
    · exact Except.ok.inj (written.parse.symm.trans writtenToo.parse)
    · rw [← Parts.cut_text written.areSeparated, ← Parts.cut_text writtenToo.areSeparated]
      exact congrArg Parts.cut (written.joined.symm.trans writtenToo.joined)
  · intro unwritten
    cases parsed : parse raw with
    | error error => exact ⟨error, rfl⟩
    | ok filter =>
        obtain ⟨parts, written⟩ := isWritten_of_parse parsed
        exact absurd ⟨filter, parts, written⟩ unwritten

end AmountFilter

end LedgerRules
