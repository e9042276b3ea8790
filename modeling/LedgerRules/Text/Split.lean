/-!
Splitting text at separators.
-/

namespace LedgerRules.Text

def splitAt (separator : Char) : List Char → List (List Char)
  | [] => [[]]
  | character :: rest =>
      if character == separator then [] :: splitAt separator rest
      else
        match splitAt separator rest with
        | part :: parts => (character :: part) :: parts
        | [] => [[character]]

def splitOnce (separator : Char) (characters : List Char) : List Char × Option (List Char) :=
  match characters.dropWhile (· != separator) with
  | _ :: after => (characters.takeWhile (· != separator), some after)
  | [] => (characters, none)

end LedgerRules.Text
