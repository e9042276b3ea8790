import LedgerRules.Text.LineBreak
import Mathlib.Data.List.Chain

/-!
Line breaks as spaces. Pieces without a break may be joined by any of the three breaks or by a
space: on a single line they are the same text. Only a lone carriage return right before a lone line
feed would not be two breaks but one.
-/

namespace LedgerRules.Text

/-- Holds neither of the characters that breaks are made of. -/
def IsUnbroken (text : List Char) : Prop := '\r' ∉ text ∧ '\n' ∉ text

instance : DecidablePred IsUnbroken := fun _ => inferInstanceAs (Decidable (_ ∧ _))

theorem IsUnbroken.tail {character : Char} {rest : List Char}
    (unbroken : IsUnbroken (character :: rest)) : IsUnbroken rest :=
  ⟨mt (List.mem_cons_of_mem character) unbroken.1, mt (List.mem_cons_of_mem character) unbroken.2⟩

theorem isUnbroken_cons {character : Char} {rest : List Char} (other : character ≠ '\r')
    (another : character ≠ '\n') (unbroken : IsUnbroken rest) :
    IsUnbroken (character :: rest) := by
  constructor
  · rw [List.mem_cons, not_or]
    exact ⟨other.symm, unbroken.1⟩
  · rw [List.mem_cons, not_or]
    exact ⟨another.symm, unbroken.2⟩

theorem isUnbroken_replaceLineBreaks (text : List Char) :
    IsUnbroken (replaceLineBreaks ' ' text) := by
  induction text using replaceLineBreaks.induct with
  | case1 rest ih => exact isUnbroken_cons (by decide) (by decide) ih
  | case2 rest alone ih =>
      rw [replaceLineBreaks.eq_2 _ _ alone]
      exact isUnbroken_cons (by decide) (by decide) ih
  | case3 rest ih => exact isUnbroken_cons (by decide) (by decide) ih
  | case4 character rest noBoth noReturn noFeed ih =>
      rw [replaceLineBreaks.eq_4 _ _ _ noBoth noReturn noFeed]
      exact isUnbroken_cons noReturn noFeed ih
  | case5 => exact ⟨List.not_mem_nil, List.not_mem_nil⟩

theorem replaceLineBreaks_append {piece : List Char} (unbroken : IsUnbroken piece)
    (replacement : Char) (rest : List Char) :
    replaceLineBreaks replacement (piece ++ rest) =
      piece ++ replaceLineBreaks replacement rest := by
  induction piece with
  | nil => rfl
  | cons character piece ih =>
      have noReturn : character ≠ '\r' := fun same => unbroken.1 (same ▸ List.mem_cons_self)
      have noFeed : character ≠ '\n' := fun same => unbroken.2 (same ▸ List.mem_cons_self)
      rw [List.cons_append, replaceLineBreaks.eq_4 _ _ _ (fun _ same => absurd same noReturn)
        noReturn noFeed, ih unbroken.tail, List.cons_append]

theorem replaceLineBreaks_eq_self {text : List Char} (unbroken : IsUnbroken text)
    (replacement : Char) : replaceLineBreaks replacement text = text := by
  have whole := replaceLineBreaks_append unbroken replacement []
  rwa [List.append_nil, replaceLineBreaks, List.append_nil] at whole

/-! Pieces and what joins them. -/

inductive Separator where
  | returnAndFeed
  | carriageReturn
  | lineFeed
  | space
  deriving DecidableEq, Repr

def Separator.characters : Separator → List Char
  | .returnAndFeed => ['\r', '\n']
  | .carriageReturn => ['\r']
  | .lineFeed => ['\n']
  | .space => [' ']

def joined : List Char → List (Separator × List Char) → List Char
  | piece, [] => piece
  | piece, (separator, next) :: others => piece ++ (separator.characters ++ joined next others)

/-- A carriage return and a line feed with nothing between them are a single break. -/
def MakeOneBreak (earlier later : Separator × List Char) : Prop :=
  earlier.1 = .carriageReturn ∧ earlier.2 = [] ∧ later.1 = .lineFeed

instance : DecidableRel MakeOneBreak := fun _ _ => inferInstanceAs (Decidable (_ ∧ _))

/-- Pieces in a row, each but the first behind what separates it from the one before it. -/
structure Joining where
  first : List Char
  others : List (Separator × List Char)
  unbroken : ∀ piece ∈ first :: others.map Prod.snd, IsUnbroken piece
  apart : others.IsChain fun earlier later => ¬MakeOneBreak earlier later

namespace Joining

def pieces (joining : Joining) : List (List Char) :=
  joining.first :: joining.others.map Prod.snd

def text (joining : Joining) : String := String.ofList (joined joining.first joining.others)

end Joining

theorem replaceLineBreaks_separator {separator : Separator} {rest : List Char}
    (apart : separator = .carriageReturn → rest.head? ≠ some '\n') :
    replaceLineBreaks ' ' (separator.characters ++ rest) = ' ' :: replaceLineBreaks ' ' rest := by
  cases separator with
  | returnAndFeed => rfl
  | carriageReturn =>
      have alone : ∀ others, rest ≠ '\n' :: others := by
        rintro others rfl
        exact apart rfl rfl
      exact replaceLineBreaks.eq_2 _ _ alone
  | lineFeed => rfl
  | space =>
      exact replaceLineBreaks.eq_4 _ _ _ (fun _ same => absurd same (by decide)) (by decide)
        (by decide)

theorem begins_of_joined {piece : List Char} {others : List (Separator × List Char)}
    (unbroken : IsUnbroken piece) (begins : (joined piece others).head? = some '\n') :
    piece = [] ∧ ∃ next rest, others = (.lineFeed, next) :: rest := by
  cases piece with
  | cons character piece =>
      have same : character = '\n' := by cases others <;> exact Option.some.inj begins
      exact absurd (same ▸ List.mem_cons_self) unbroken.2
  | nil =>
      cases others with
      | nil => cases begins
      | cons other rest =>
          obtain ⟨separator, next⟩ := other
          cases separator with
          | lineFeed => exact ⟨rfl, next, rest, rfl⟩
          | _ => exact absurd (Option.some.inj begins) (by decide)

theorem replaceLineBreaks_joined {first : List Char} {others : List (Separator × List Char)}
    (unbroken : ∀ piece ∈ first :: others.map Prod.snd, IsUnbroken piece)
    (apart : others.IsChain fun earlier later => ¬MakeOneBreak earlier later) :
    replaceLineBreaks ' ' (joined first others) =
      List.intercalate [' '] (first :: others.map Prod.snd) := by
  induction others generalizing first with
  | nil =>
      rw [joined, replaceLineBreaks_eq_self (unbroken first List.mem_cons_self), List.map_nil,
        List.intercalate_singleton]
  | cons other rest ih =>
      obtain ⟨separator, next⟩ := other
      obtain ⟨own, later⟩ := List.forall_mem_cons.mp unbroken
      have single : separator = .carriageReturn → (joined next rest).head? ≠ some '\n' := by
        intro lone begins
        obtain ⟨empty, after, others, rfl⟩ :=
          begins_of_joined (later next List.mem_cons_self) begins
        exact (List.isChain_cons_cons.mp apart).1 ⟨lone, empty, rfl⟩
      rw [joined, replaceLineBreaks_append own, replaceLineBreaks_separator single,
        ih later apart.tail, List.map_cons, List.intercalate_cons_cons, List.append_assoc,
        List.singleton_append]

theorem singleLine_eq_self {text : String} (unbroken : IsUnbroken text.toList) :
    singleLine text = text := by
  rw [singleLine, replaceLineBreaks_eq_self unbroken, String.ofList_toList]

theorem isUnbroken_singleLine (text : String) : IsUnbroken (singleLine text).toList := by
  rw [singleLine, String.toList_ofList]
  exact isUnbroken_replaceLineBreaks text.toList

theorem singleLine_singleLine (text : String) : singleLine (singleLine text) = singleLine text :=
  singleLine_eq_self (isUnbroken_singleLine text)

/-- On a single line it does not show what has joined the pieces. -/
theorem Joining.singleLine_text (joining : Joining) :
    singleLine joining.text = String.ofList (List.intercalate [' '] joining.pieces) := by
  rw [singleLine, text, String.toList_ofList,
    replaceLineBreaks_joined joining.unbroken joining.apart, pieces]

end LedgerRules.Text
