import Mathlib
import LedgerRules.Text.Blank
import LedgerRules.Text.Split

/-!
Where texts are cut: at the first character that is not kept, and at the first separator.
-/

namespace LedgerRules.Text

section Keeping

variable {keeps : Char → Bool} {front rest : List Char}

/-- Nothing of a text is kept: it is empty, or its first character is not kept. -/
def Stops (keeps : Char → Bool) (rest : List Char) : Prop :=
  ∀ character ∈ rest.head?, keeps character = false

theorem Stops.nil : Stops keeps [] := nofun

theorem Stops.cons {character : Char} (stops : keeps character = false) :
    Stops keeps (character :: rest) := by
  intro other member
  obtain rfl := Option.some.inj member
  exact stops

theorem Stops.takeWhile_append (stops : Stops keeps rest)
    (kept : ∀ character ∈ front, keeps character) : (front ++ rest).takeWhile keeps = front := by
  rw [List.takeWhile_append_of_pos kept]
  cases rest with
  | nil => simp
  | cons character rest =>
      rw [List.takeWhile_cons_of_neg (by simp [stops character rfl]), List.append_nil]

theorem Stops.dropWhile_append (stops : Stops keeps rest)
    (kept : ∀ character ∈ front, keeps character) : (front ++ rest).dropWhile keeps = rest := by
  rw [List.dropWhile_append_of_pos kept]
  cases rest with
  | nil => rfl
  | cons character rest => exact List.dropWhile_cons_of_neg (by simp [stops character rfl])

theorem Stops.dropWhile_eq_self (stops : Stops keeps rest) : rest.dropWhile keeps = rest :=
  stops.dropWhile_append (fun _ member => nomatch member : ∀ character ∈ [], keeps character)

end Keeping

section Splitting

variable {separator : Char} {front : List Char}

theorem differs_of_not_mem (absent : separator ∉ front) :
    ∀ character ∈ front, (character != separator) = true := by
  rintro character member
  rw [bne_iff_ne]
  rintro rfl
  exact absent member

theorem splitOnce_separated (absent : separator ∉ front) (rest : List Char) :
    splitOnce separator (front ++ separator :: rest) = (front, some rest) := by
  have stops : Stops (· != separator) (separator :: rest) := .cons (by simp)
  have differs := differs_of_not_mem absent
  rw [splitOnce, stops.dropWhile_append differs, stops.takeWhile_append differs]

theorem splitOnce_of_not_mem (absent : separator ∉ front) :
    splitOnce separator front = (front, none) := by
  have nothing : front.dropWhile (· != separator) = [] :=
    List.dropWhile_eq_nil_iff.mpr (differs_of_not_mem absent)
  rw [splitOnce, nothing]

theorem splitAt_of_not_mem (absent : separator ∉ front) : splitAt separator front = [front] := by
  induction front with
  | nil => rfl
  | cons character front ih =>
      rw [List.mem_cons, not_or] at absent
      rw [splitAt, ih absent.2, if_neg (by simpa using Ne.symm absent.1)]

theorem splitAt_separated (absent : separator ∉ front) (rest : List Char) :
    splitAt separator (front ++ separator :: rest) = front :: splitAt separator rest := by
  induction front with
  | nil => simp [splitAt]
  | cons character front ih =>
      rw [List.mem_cons, not_or] at absent
      rw [List.cons_append, splitAt, ih absent.2, if_neg (by simpa using Ne.symm absent.1)]

/-- Parts that do not hold the separator are found again when they have been joined by it. -/
theorem splitAt_intercalate {parts : List (List Char)} (filled : parts ≠ [])
    (absent : ∀ part ∈ parts, separator ∉ part) :
    splitAt separator (List.intercalate [separator] parts) = parts := by
  induction parts with
  | nil => exact absurd rfl filled
  | cons part parts ih =>
      obtain ⟨own, others⟩ := List.forall_mem_cons.mp absent
      cases parts with
      | nil => rw [List.intercalate_singleton, splitAt_of_not_mem own]
      | cons next rest =>
          rw [List.intercalate_cons_cons, List.append_assoc, List.singleton_append,
            splitAt_separated own, ih (List.cons_ne_nil _ _) others]

theorem splitAt_ne_nil (separator : Char) (text : List Char) : splitAt separator text ≠ [] := by
  cases text with
  | nil => exact List.cons_ne_nil _ _
  | cons character rest =>
      rw [splitAt]
      split
      · exact List.cons_ne_nil _ _
      · split <;> exact List.cons_ne_nil _ _

theorem intercalate_splitAt (separator : Char) (text : List Char) :
    List.intercalate [separator] (splitAt separator text) = text := by
  induction text with
  | nil => rfl
  | cons character rest ih =>
      obtain ⟨part, others, parts⟩ := List.exists_cons_of_ne_nil (splitAt_ne_nil separator rest)
      rw [splitAt, parts]
      rw [parts] at ih
      split
      · rename_i same
        rw [List.intercalate_cons_cons, ih, eq_of_beq same]
        rfl
      · cases others with
        | nil =>
            rw [List.intercalate_singleton] at ih ⊢
            rw [ih]
        | cons next others =>
            rw [List.intercalate_cons_cons] at ih ⊢
            rw [← ih]
            rfl

theorem mem_of_mem_splitOnce {text : List Char} {character : Char}
    (member : character ∈ (splitOnce separator text).1 ∨
      character ∈ (splitOnce separator text).2.getD []) : character ∈ text := by
  simp only [splitOnce] at member
  split at member
  · rename_i after found
    rcases member with before | behind
    · exact List.takeWhile_subset _ before
    · have suffix := List.dropWhile_suffix (l := text) (· != separator)
      rw [found] at suffix
      exact suffix.subset (List.mem_cons_of_mem _ behind)
  · rcases member with whole | nothing
    · exact whole
    · cases nothing

end Splitting

theorem not_mem_of_blank {gap : List Char} (blank : ∀ character ∈ gap, isBlank character)
    {character : Char} (solid : isBlank character = false) : character ∉ gap := by
  intro member
  rw [blank character member] at solid
  cases solid

def dropLastBlanks (text : List Char) : List Char := (dropBlanks text.reverse).reverse

/-- Behind a beginning without blanks, only the rest has blanks at its end. -/
theorem dropLastBlanks_append {front : List Char}
    (solid : ∀ character ∈ front, isBlank character = false) (rest : List Char) :
    dropLastBlanks (front ++ rest) = front ++ dropLastBlanks rest := by
  have ends : dropBlanks front.reverse = front.reverse := by
    apply Stops.dropWhile_eq_self
    exact fun _ member => solid _ (List.mem_reverse.mp (List.mem_of_mem_head? member))
  have back : dropBlanks (rest.reverse ++ front.reverse) =
      dropBlanks rest.reverse ++ front.reverse := by
    rw [dropBlanks, List.dropWhile_append, ← dropBlanks, ← dropBlanks, ends]
    split
    · rename_i nothing
      rw [List.isEmpty_iff.mp nothing, List.nil_append]
    · rfl
  rw [dropLastBlanks, List.reverse_append, back, List.reverse_append, List.reverse_reverse,
    dropLastBlanks]

theorem trimBlanks_append {front : List Char}
    (solid : ∀ character ∈ front, isBlank character = false) (filled : front ≠ [])
    (rest : List Char) : trimBlanks (front ++ rest) = front ++ dropLastBlanks rest := by
  have begins : Stops isBlank (front ++ rest) := by
    intro character member
    rw [List.head?_append_of_ne_nil _ filled] at member
    exact solid _ (List.mem_of_mem_head? member)
  have start : dropBlanks (front ++ rest) = front ++ rest := begins.dropWhile_eq_self
  rw [trimBlanks, start, ← dropLastBlanks, dropLastBlanks_append solid]

theorem prefix_dropLastBlanks (text : List Char) : dropLastBlanks text <+: text := by
  rw [← List.reverse_suffix, dropLastBlanks, List.reverse_reverse]
  exact List.dropWhile_suffix _

theorem dropLastBlanks_eq_self_iff {text : List Char} :
    dropLastBlanks text = text ↔ ∀ character ∈ text.getLast?, isBlank character = false := by
  rw [dropLastBlanks, List.reverse_eq_iff, ← List.head?_reverse]
  constructor
  · intro same character member
    have stopped := List.head?_dropWhile_not isBlank text.reverse
    rw [dropBlanks] at same
    rwa [same, Option.mem_def.mp member] at stopped
  · intro ends
    exact Stops.dropWhile_eq_self ends

theorem trimBlanks_eq_self {text : List Char}
    (solid : ∀ character ∈ text, isBlank character = false) : trimBlanks text = text := by
  cases text with
  | nil => rfl
  | cons first rest =>
      have nothing : dropLastBlanks [] = [] := rfl
      have whole := trimBlanks_append solid (List.cons_ne_nil first rest) []
      rwa [nothing, List.append_nil] at whole

end LedgerRules.Text
