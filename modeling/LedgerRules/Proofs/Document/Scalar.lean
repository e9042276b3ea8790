import LedgerRules.Proofs.Document.Canonical
import LedgerRules.Proofs.Number.Layout

/-!
Scalars that are written as words: nothing, truth values and numbers. They are told by their words,
whatever they look like, and a text is told from all of them by its quotes.
-/

namespace LedgerRules

open Text

/-- Nothing, truth values, numbers and texts. -/
inductive Scalar.IsBasic : Scalar → Prop where
  | null : IsBasic .null
  | bool (value : Bool) : IsBasic (.bool value)
  | integer (value : Int) : IsBasic (.integer value)
  | double (value : Double) : IsBasic (.double value)
  | string (text : String) : IsBasic (.string text)

theorem Double.jsonText_ne {text : String} (letter : ¬IsNumeral text)
    (other : text ∉ ["Infinity", "-Infinity", "NaN"]) (value : Double) :
    value.textWith jsonWords ≠ text := by
  rintro rfl
  cases value with
  | finite negative rank => exact letter (isNumeral_finite jsonWords negative rank)
  | infinite negative => cases negative <;> exact other (by decide)
  | notANumber => exact other (by decide)

namespace Word

/-- Words that no number is written as. -/
structure IsLetters (word : Word) : Prop where
  letter : ¬IsNumeral word.text
  other : word.text ∉ ["Infinity", "-Infinity", "NaN"]

theorem IsLetters.of_bool (value : Bool) : (ofBool value).IsLetters := by
  cases value <;> exact ⟨by decide, by decide⟩

theorem IsLetters.ne_ofInt {word : Word} (letters : word.IsLetters) (value : Int) :
    word ≠ ofInt value := by
  rintro rfl
  exact letters.letter (.of_int value)

theorem IsLetters.ne_ofDouble {word : Word} (letters : word.IsLetters) (value : Double) :
    word ≠ ofDouble value :=
  fun same => Double.jsonText_ne letters.letter letters.other value (congrArg text same).symm

theorem ofDouble_ne_ofInt (value : Double) (number : Int) : ofDouble value ≠ ofInt number :=
  fun same => value.jsonText_ne_int number (congrArg text same)

end Word

/-- Scalars of different kinds are written differently, whatever they look like. -/
theorem Scalar.shape_injective {value other : Scalar} (basic : value.IsBasic)
    (otherBasic : other.IsBasic) (same : value.shape = other.shape) : value = other := by
  have null : Word.IsLetters ⟨"null", by decide, by decide⟩ := ⟨by decide, by decide⟩
  have boolean := Word.IsLetters.of_bool
  have distinct (truth : Bool) : (⟨"null", by decide, by decide⟩ : Word) ≠ .ofBool truth := by
    intro equal
    have texts := congrArg Word.text equal
    revert texts
    cases truth <;> decide
  cases basic with
  | null =>
      cases otherBasic with
      | null => rfl
      | bool truth => exact absurd (Shape.word.inj same) (distinct truth)
      | integer number => exact absurd (Shape.word.inj same) (null.ne_ofInt number)
      | double number => exact absurd (Shape.word.inj same) (null.ne_ofDouble number)
      | string text => cases same
  | bool truth =>
      cases otherBasic with
      | null => exact absurd (Shape.word.inj same).symm (distinct truth)
      | bool truthToo =>
          have texts := congrArg Word.text (Shape.word.inj same)
          revert texts
          cases truth <;> cases truthToo <;> decide
      | integer number => exact absurd (Shape.word.inj same) ((boolean truth).ne_ofInt number)
      | double number => exact absurd (Shape.word.inj same) ((boolean truth).ne_ofDouble number)
      | string text => cases same
  | integer number =>
      cases otherBasic with
      | null => exact absurd (Shape.word.inj same).symm (null.ne_ofInt number)
      | bool truth => exact absurd (Shape.word.inj same).symm ((boolean truth).ne_ofInt number)
      | integer numberToo =>
          have texts := congrArg Word.text (Shape.word.inj same)
          exact congrArg Scalar.integer (Int.repr_injective texts)
      | double numberToo =>
          exact absurd (Shape.word.inj same).symm (Word.ofDouble_ne_ofInt numberToo number)
      | string text => cases same
  | double number =>
      cases otherBasic with
      | null => exact absurd (Shape.word.inj same).symm (null.ne_ofDouble number)
      | bool truth => exact absurd (Shape.word.inj same).symm ((boolean truth).ne_ofDouble number)
      | integer numberToo =>
          exact absurd (Shape.word.inj same) (Word.ofDouble_ne_ofInt number numberToo)
      | double numberToo =>
          have texts := congrArg Word.text (Shape.word.inj same)
          exact congrArg Scalar.double (Double.jsonText_injective texts)
      | string text => cases same
  | string text =>
      cases otherBasic with
      | string textToo => exact congrArg Scalar.string (Shape.text.inj same)
      | _ => cases same

end LedgerRules
