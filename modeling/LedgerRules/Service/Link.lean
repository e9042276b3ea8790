import LedgerRules.Text.Blank

/-!
The link to the next page in a link header. A link is a target in angle brackets, a semicolon, and
parameters up to the next comma; the first link whose parameters relate it to the next page counts.
-/

namespace LedgerRules.Link

def afterBracket? (characters : List Char) : Option (List Char × List Char × List Char) :=
  let target := characters.takeWhile (· != '>')
  match characters.dropWhile (· != '>') with
  | _ :: rest =>
      match Text.dropBlanks rest with
      | ';' :: rest => some (target, rest.takeWhile (· != ','), rest.dropWhile (· != ','))
      | _ => none
  | [] => none

def linksWithin : (steps : Nat) → List Char → List (List Char × List Char)
  | 0, _ => []
  | _, [] => []
  | steps + 1, character :: rest =>
      match (if character == '<' then afterBracket? rest else none) with
      | some (target, parameters, remaining) => (target, parameters) :: linksWithin steps remaining
      | none => linksWithin steps rest

def links (header : List Char) : List (List Char × List Char) :=
  linksWithin header.length header

def afterWord? : (word : List Char) → List Char → Option (List Char)
  | [], rest => some rest
  | letter :: word, character :: rest =>
      if character.toLower == letter then afterWord? word rest else none
  | _ :: _, [] => none

def beginsNextRelation (characters : List Char) : Bool :=
  match afterWord? "rel".toList characters with
  | none => false
  | some rest =>
      match Text.dropBlanks rest with
      | '=' :: rest =>
          match Text.dropBlanks rest with
          | '"' :: rest => (afterWord? "next".toList rest).isSome
          | rest => (afterWord? "next".toList rest).isSome
      | _ => false

def isNext : List Char → Bool
  | [] => false
  | character :: rest => beginsNextRelation (character :: rest) || isNext rest

def next? (header : String) : Option String :=
  ((links header.toList).find? fun link => isNext link.2).map fun link => String.ofList link.1

end LedgerRules.Link
