import LedgerRules.Number.Reader
import LedgerRules.Rules.Error
import LedgerRules.Text.Blank
import LedgerRules.Text.Digit

/-!
Amount filters such as `< 50` or `>= 12.5`: a comparator and a magnitude. The comparator is the
longest run of characters that cannot begin a magnitude, as long as a magnitude is left.
-/

namespace LedgerRules

inductive Comparator where
  | equal
  | greater
  | atLeast
  | less
  | atMost
  deriving DecidableEq, Repr

namespace Comparator

def ofSymbol? (symbol : String) : Option Comparator :=
  if symbol = "=" ∨ symbol = "==" then some .equal
  else if symbol = ">" then some .greater
  else if symbol = ">=" ∨ symbol = "≥" then some .atLeast
  else if symbol = "<" then some .less
  else if symbol = "<=" ∨ symbol = "≤" then some .atMost
  else none

def holds : Comparator → Double → Double → Bool
  | .equal, left, right => left.equals right
  | .greater, left, right => right.less left
  | .atLeast, left, right => right.atMost left
  | .less, left, right => left.less right
  | .atMost, left, right => left.atMost right

end Comparator

structure AmountFilter where
  comparator : Comparator
  magnitude : Double
  deriving DecidableEq

namespace AmountFilter

def isSymbolCharacter (character : Char) : Bool :=
  !(Text.isDigit character || Text.isBlank character || character == '.' || character == '+' ||
    character == '-')

def split? (characters : List Char) : Option (List Char × List Char) :=
  let start := Text.dropBlanks characters
  let symbol := start.takeWhile isSymbolCharacter
  let rest := Text.dropBlanks (start.dropWhile isSymbolCharacter)
  let magnitude := rest.takeWhile fun character => !Text.isBlank character
  let after := rest.dropWhile fun character => !Text.isBlank character
  if symbol.isEmpty || !after.all Text.isBlank then none
  else if !magnitude.isEmpty then some (symbol, magnitude)
  else
    match symbol.reverse with
    | last :: first :: others => some ((first :: others).reverse, [last])
    | _ => none

def parse (raw : String) : Except ConfigurationError AmountFilter :=
  match split? raw.toList with
  | none => .error (.amountForm raw)
  | some (symbol, magnitude) =>
      match Comparator.ofSymbol? (String.ofList symbol) with
      | none => .error (.amountComparator (String.ofList symbol))
      | some comparator =>
          match Double.read? (String.ofList magnitude) with
          | none => .error (.amountMagnitude raw)
          | some value =>
              if value.isNotANumber || value.isNegative then .error (.amountSign raw)
              else .ok ⟨comparator, value⟩

def accepts (filter : AmountFilter) (amount : Double) : Bool :=
  filter.comparator.holds amount.absolute filter.magnitude

end AmountFilter

end LedgerRules
