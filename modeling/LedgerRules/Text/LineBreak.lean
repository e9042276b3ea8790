/-!
Line breaks: a carriage return with a line feed, or either of them alone.
-/

namespace LedgerRules.Text

def replaceLineBreaks (replacement : Char) : List Char → List Char
  | '\r' :: '\n' :: rest => replacement :: replaceLineBreaks replacement rest
  | '\r' :: rest => replacement :: replaceLineBreaks replacement rest
  | '\n' :: rest => replacement :: replaceLineBreaks replacement rest
  | character :: rest => character :: replaceLineBreaks replacement rest
  | [] => []

def singleLine (text : String) : String := String.ofList (replaceLineBreaks ' ' text.toList)

def unifyLineBreaks (text : String) : String := String.ofList (replaceLineBreaks '\n' text.toList)

def lineAndColumn (characters : List Char) (position : Nat) : Nat × Nat :=
  let before := characters.take position
  (before.count '\n' + 1, (before.reverse.takeWhile (· != '\n')).length + 1)

end LedgerRules.Text
