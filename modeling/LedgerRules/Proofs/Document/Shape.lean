import LedgerRules.Proofs.Json.AsciiString
import LedgerRules.Proofs.Number.Numeral

/-!
What can be told from a canonical text: the words without quotes, the quoted texts, and how they are
nested. A text is read in one way only, because strings are closed by a quote, lists and objects by
a bracket, and a word ends where a separator or a closing bracket begins.
-/

namespace LedgerRules

namespace Text

def isUnquoted (character : Char) : Bool :=
  character.isAlphanum || character == '-' || character == '+' || character == '.'

def isEnding (character : Char) : Bool :=
  character == ',' || character == ']' || character == '}'

theorem isUnquoted_of_numeral {character : Char} (numeral : isNumeralCharacter character) :
    isUnquoted character := by
  simp only [isNumeralCharacter, isUnquoted, Char.isAlphanum, Bool.or_eq_true,
    beq_iff_eq] at numeral ⊢
  rcases numeral with (((digit | minus) | plus) | point) | mark
  · simp [digit]
  · simp [minus]
  · simp [plus]
  · simp [point]
  · subst mark
    decide

end Text

open Text

structure Word where
  text : String
  filled : text.toList ≠ []
  plain : text.toList.all isUnquoted

inductive Shape where
  | word (word : Word)
  | text (content : String)
  | list (items : List Shape)
  | object (fields : List (String × Shape))

/-- The parts of a list or an object after the first one, up to the closing bracket. -/
def closed (closing : Char) : List (List Char) → List Char
  | [] => [closing]
  | part :: rest => ',' :: part ++ closed closing rest

def bracketed (opening closing : Char) : List (List Char) → List Char
  | [] => [opening, closing]
  | part :: rest => opening :: part ++ closed closing rest

def quotedCharacters (text : String) : List Char :=
  '"' :: text.toList.flatMap Json.rawCharacter ++ ['"']

namespace Shape

mutual

def characters : Shape → List Char
  | .word letters => letters.text.toList
  | .text content => quotedCharacters content
  | .list items => bracketed '[' ']' (itemCharacters items)
  | .object fields => bracketed '\x7b' '\x7d' (fieldCharacters fields)

def itemCharacters : List Shape → List (List Char)
  | [] => []
  | item :: rest => characters item :: itemCharacters rest

def fieldCharacters : List (String × Shape) → List (List Char)
  | [] => []
  | (name, value) :: rest =>
      (quotedCharacters name ++ ':' :: characters value) :: fieldCharacters rest

end

def fieldText (field : String × Shape) : List Char :=
  quotedCharacters field.1 ++ ':' :: field.2.characters

theorem itemCharacters_eq (items : List Shape) : itemCharacters items = items.map characters := by
  induction items with
  | nil => rfl
  | cons item rest ih => rw [itemCharacters, ih, List.map_cons]

theorem fieldCharacters_eq (fields : List (String × Shape)) :
    fieldCharacters fields = fields.map fieldText := by
  induction fields with
  | nil => rfl
  | cons field rest ih =>
      rw [fieldCharacters, ih, List.map_cons]
      rfl

end Shape

/-! Reading what has been written, with anything behind it. -/

/-- Behind a word there is nothing, or a separator or a closing bracket. -/
def Ends (rest : List Char) : Prop := ∀ character ∈ rest.head?, isEnding character

/-- Where the text of an item begins another text, it is that item and what is behind it is the
same. -/
def IsReadable {α : Type} (write : α → List Char) (item : α) : Prop :=
  ∀ (other : α) (left right : List Char), Ends left → Ends right →
    write item ++ left = write other ++ right → item = other ∧ left = right

theorem ends_closed {closing : Char} (ending : isEnding closing) (parts : List (List Char))
    (rest : List Char) : Ends (closed closing parts ++ rest) := by
  intro character first
  cases parts with
  | nil =>
      obtain rfl : closing = character := by simpa [closed] using first
      exact ending
  | cons part others =>
      obtain rfl : ',' = character := by simpa [closed] using first
      decide

section Bracketed

variable {α : Type} {write : α → List Char} {closing : Char}

theorem closed_readable (ending : isEnding closing) (distinct : closing ≠ ',') {items : List α}
    (readable : ∀ item ∈ items, IsReadable write item) {others : List α} {left right : List Char}
    (same : closed closing (items.map write) ++ left = closed closing (others.map write) ++ right) :
    items = others ∧ left = right := by
  induction items generalizing others with
  | nil =>
      cases others with
      | nil => exact ⟨rfl, (List.cons.inj same).2⟩
      | cons other rest => exact absurd (List.cons.inj same).1 distinct
  | cons item rest ih =>
      cases others with
      | nil => exact absurd (List.cons.inj same).1 distinct.symm
      | cons other remaining =>
          simp only [List.map_cons, closed, List.cons_append, List.append_assoc, List.cons.injEq,
            true_and] at same
          obtain ⟨rfl, tails⟩ := readable item List.mem_cons_self _ _ _
            (ends_closed ending _ _) (ends_closed ending _ _) same
          obtain ⟨rfl, behind⟩ := ih (fun other member => readable other
            (List.mem_cons_of_mem _ member)) tails
          exact ⟨rfl, behind⟩

/-- The text of an item is not empty and does not begin like a separator or a closing bracket. -/
def Begins (text : List Char) : Prop := ∃ first ∈ text.head?, isEnding first = false

theorem bracketed_readable {opening : Char} (ending : isEnding closing) (distinct : closing ≠ ',')
    (begins : ∀ item : α, Begins (write item)) {items : List α}
    (readable : ∀ item ∈ items, IsReadable write item) {others : List α} {left right : List Char}
    (same : bracketed opening closing (items.map write) ++ left =
      bracketed opening closing (others.map write) ++ right) :
    items = others ∧ left = right := by
  have never {item : α} {tail rest : List Char} : closing :: tail ≠ write item ++ rest := by
    intro equal
    obtain ⟨first, head, other⟩ := begins item
    cases written : write item with
    | nil => simp [written] at head
    | cons character characters =>
        rw [written] at head equal
        obtain rfl : character = first := by simpa using head
        rw [(List.cons.inj equal).1, other] at ending
        cases ending
  cases items with
  | nil =>
      cases others with
      | nil => exact ⟨rfl, (List.cons.inj (List.cons.inj same).2).2⟩
      | cons other rest =>
          simp only [List.map_nil, List.map_cons, bracketed, List.cons_append, List.nil_append,
            List.append_assoc, List.cons.injEq, true_and] at same
          exact absurd same never
  | cons item rest =>
      cases others with
      | nil =>
          simp only [List.map_nil, List.map_cons, bracketed, List.cons_append, List.nil_append,
            List.append_assoc, List.cons.injEq, true_and] at same
          exact absurd same.symm never
      | cons other remaining =>
          simp only [List.map_cons, bracketed, List.cons_append, List.append_assoc,
            List.cons.injEq, true_and] at same
          obtain ⟨rfl, tails⟩ := readable item List.mem_cons_self _ _ _
            (ends_closed ending _ _) (ends_closed ending _ _) same
          obtain ⟨rfl, behind⟩ := closed_readable ending distinct (fun other member =>
            readable other (List.mem_cons_of_mem _ member)) tails
          exact ⟨rfl, behind⟩

end Bracketed

theorem quotedCharacters_readable {text other : String} {left right : List Char}
    (same : quotedCharacters text ++ left = quotedCharacters other ++ right) :
    text = other ∧ left = right := by
  have behind : text.toList.flatMap Json.rawCharacter ++ '"' :: left =
      other.toList.flatMap Json.rawCharacter ++ '"' :: right := by
    simpa [quotedCharacters] using same
  have read := Json.readString_raw text [] left
  rw [behind, Json.readString_raw other [] right] at read
  obtain ⟨rfl, rfl⟩ := Prod.mk.inj (Except.ok.inj read)
  exact ⟨rfl, rfl⟩

theorem Ends.not_word {rest : List Char} (ends : Ends rest) :
    rest.takeWhile isUnquoted = [] := by
  cases rest with
  | nil => rfl
  | cons first others =>
      have ending := ends first rfl
      simp only [isEnding, Bool.or_eq_true, beq_iff_eq] at ending
      rcases ending with (rfl | rfl) | rfl <;> rfl

theorem Word.takeWhile_append (word : Word) {rest : List Char} (ends : Ends rest) :
    (word.text.toList ++ rest).takeWhile isUnquoted = word.text.toList := by
  rw [List.takeWhile_append_of_pos (List.all_eq_true.mp word.plain), ends.not_word, List.append_nil]

theorem Word.readable {word other : Word} {left right : List Char} (leftEnds : Ends left)
    (rightEnds : Ends right) (same : word.text.toList ++ left = other.text.toList ++ right) :
    word = other ∧ left = right := by
  have texts : word.text.toList = other.text.toList := by
    rw [← word.takeWhile_append leftEnds, same, other.takeWhile_append rightEnds]
  rw [texts] at same
  refine ⟨?_, List.append_cancel_left same⟩
  cases word
  cases other
  obtain rfl := String.toList_inj.mp texts
  rfl

namespace Shape

/-- The character that all texts of a kind begin with, but for words. -/
def opening? : Shape → Option Char
  | .word _ => none
  | .text _ => some '"'
  | .list _ => some '['
  | .object _ => some '\x7b'

theorem begins_bracketed (opening closing : Char) (parts : List (List Char)) :
    (bracketed opening closing parts).head? = some opening := by
  cases parts <;> rfl

theorem head_characters (shape : Shape) :
    (∃ first, shape.characters.head? = some first ∧ isUnquoted first ∧
      shape.opening? = none) ∨
        ∃ first, shape.characters.head? = some first ∧ shape.opening? = some first := by
  cases shape with
  | word letters =>
      left
      cases written : letters.text.toList with
      | nil => exact absurd written letters.filled
      | cons first others =>
          refine ⟨first, by rw [characters, written]; rfl, ?_, rfl⟩
          exact List.all_eq_true.mp letters.plain first (by rw [written]; exact List.mem_cons_self)
  | text content => exact .inr ⟨_, rfl, rfl⟩
  | list items => exact .inr ⟨_, begins_bracketed _ _ _, rfl⟩
  | object fields => exact .inr ⟨_, begins_bracketed _ _ _, rfl⟩

theorem begins (shape : Shape) : Begins shape.characters := by
  rcases shape.head_characters with ⟨first, head, plain, _⟩ | ⟨first, head, opening⟩
  · refine ⟨first, head, ?_⟩
    cases ending : isEnding first with
    | false => rfl
    | true =>
        simp only [isEnding, Bool.or_eq_true, beq_iff_eq] at ending
        rcases ending with (rfl | rfl) | rfl <;> cases plain
  · refine ⟨first, head, ?_⟩
    cases shape <;> cases opening <;> rfl

theorem opening?_eq {shape other : Shape} {left right : List Char}
    (same : shape.characters ++ left = other.characters ++ right) :
    shape.opening? = other.opening? := by
  have head {shape : Shape} {first : Char} (rest : List Char)
      (head : shape.characters.head? = some first) :
      (shape.characters ++ rest).head? = some first := by
    rw [List.head?_append, head, Option.some_or]
  have apart {shape : Shape} {first : Char} (plain : isUnquoted first)
      (opening : shape.opening? = some first) : False := by
    cases shape <;> cases opening <;> cases plain
  rcases shape.head_characters with ⟨first, begun, plain, word⟩ | ⟨first, begun, opening⟩ <;>
    rcases other.head_characters with ⟨second, begunToo, plainToo, wordToo⟩ |
      ⟨second, begunToo, openingToo⟩
  all_goals
    obtain rfl : first = second := by
      have heads := congrArg List.head? same
      rw [head left begun, head right begunToo] at heads
      exact Option.some.inj heads
  · rw [word, wordToo]
  · exact (apart plain openingToo).elim
  · exact (apart plainToo opening).elim
  · rw [opening, openingToo]

mutual

theorem readable : (shape : Shape) → IsReadable characters shape
  | .word letters => by
      intro other left right leftEnds rightEnds same
      cases other with
      | word others =>
          obtain ⟨rfl, behind⟩ := Word.readable leftEnds rightEnds same
          exact ⟨rfl, behind⟩
      | _ => cases opening?_eq same
  | .text content => by
      intro other left right _ _ same
      cases other with
      | text others =>
          obtain ⟨rfl, behind⟩ := quotedCharacters_readable same
          exact ⟨rfl, behind⟩
      | _ => cases opening?_eq same
  | .list items => by
      intro other left right _ _ same
      cases other with
      | list others =>
          simp only [characters, itemCharacters_eq] at same
          obtain ⟨rfl, behind⟩ :=
            bracketed_readable (by decide) (by decide) begins (items_readable items) same
          exact ⟨rfl, behind⟩
      | _ => cases opening?_eq same
  | .object fields => by
      intro other left right _ _ same
      cases other with
      | object others =>
          simp only [characters, fieldCharacters_eq] at same
          obtain ⟨rfl, behind⟩ := bracketed_readable (by decide) (by decide)
            (fun _ => ⟨'"', rfl, rfl⟩) (fields_readable fields) same
          exact ⟨rfl, behind⟩
      | _ => cases opening?_eq same

theorem items_readable : (items : List Shape) → ∀ item ∈ items, IsReadable characters item
  | [], _, member => absurd member List.not_mem_nil
  | item :: rest, other, member => by
      rcases List.mem_cons.mp member with same | later
      · rw [same]
        exact readable item
      · exact items_readable rest other later

theorem fields_readable :
    (fields : List (String × Shape)) → ∀ field ∈ fields, IsReadable fieldText field
  | [], _, member => absurd member List.not_mem_nil
  | (name, value) :: rest, other, member => by
      rcases List.mem_cons.mp member with first | later
      · rw [first]
        intro other left right leftEnds rightEnds same
        simp only [fieldText, List.append_assoc, List.cons_append] at same
        obtain ⟨rfl, values⟩ := quotedCharacters_readable same
        obtain ⟨rfl, behind⟩ :=
          readable value _ _ _ leftEnds rightEnds (List.cons.inj values).2
        exact ⟨rfl, behind⟩
      · exact fields_readable rest other later

end

theorem characters_injective : Function.Injective characters := by
  intro shape other same
  have nothing : Ends [] := by
    intro character first
    cases first
  have appended : shape.characters ++ [] = other.characters ++ [] := by rw [same]
  exact (shape.readable other [] [] nothing nothing appended).1

end Shape

end LedgerRules
