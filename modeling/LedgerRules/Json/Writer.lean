import LedgerRules.Json.Basic
import LedgerRules.Number.Text
import LedgerRules.Text.Digit

/-!
Writing JSON text: on one line with spaces after the separators, or indented over several lines.
Strings are written in ASCII. Floating point numbers have their shortest digits.
-/

namespace LedgerRules.Json

def requiredEscape? (character : Char) : Option (List Char) :=
  if character == '"' then some ['\\', '"']
  else if character == '\\' then some ['\\', '\\']
  else if character == '\n' then some ['\\', 'n']
  else if character == '\r' then some ['\\', 'r']
  else if character == '\t' then some ['\\', 't']
  else if character == '\x08' then some ['\\', 'b']
  else if character == '\x0C' then some ['\\', 'f']
  else if character.toNat < 0x20 then some ('\\' :: 'u' :: Text.hexDigits 4 character.toNat)
  else none

def unicodeEscape (character : Char) : List Char :=
  let code := character.toNat
  if code < 0x10000 then '\\' :: 'u' :: Text.hexDigits 4 code
  else
    let offset := code - 0x10000
    '\\' :: 'u' :: Text.hexDigits 4 (0xD800 + offset / 1024) ++
      '\\' :: 'u' :: Text.hexDigits 4 (0xDC00 + offset % 1024)

def asciiCharacter (character : Char) : List Char :=
  match requiredEscape? character with
  | some escape => escape
  | none => if character.toNat < 0x7F then [character] else unicodeEscape character

def rawCharacter (character : Char) : List Char :=
  (requiredEscape? character).getD [character]

def asciiString (text : String) : String :=
  String.ofList ('"' :: text.toList.flatMap asciiCharacter ++ ['"'])

def rawString (text : String) : String :=
  String.ofList ('"' :: text.toList.flatMap rawCharacter ++ ['"'])

def scalarText : Json → String
  | .null => "null"
  | .bool value => if value then "true" else "false"
  | .integer value => toString value
  | .double value => value.textWith Double.jsonWords
  | .string text => asciiString text
  | .array _ => "[]"
  | .object _ => "\x7b\x7d"

mutual

def text : Json → String
  | .array items => "[" ++ String.intercalate ", " (itemTexts items) ++ "]"
  | .object fields => "\x7b" ++ String.intercalate ", " (fieldTexts fields) ++ "\x7d"
  | scalar => scalarText scalar

def itemTexts : List Json → List String
  | [] => []
  | item :: rest => text item :: itemTexts rest

def fieldTexts : List (String × Json) → List String
  | [] => []
  | (name, value) :: rest => (asciiString name ++ ": " ++ text value) :: fieldTexts rest

end

def bracketLines (depth : Nat) (opening closing : String) (lines : List String) : String :=
  let margin (depth : Nat) := "\n" ++ String.ofList (List.replicate (2 * depth) ' ')
  opening ++ margin (depth + 1) ++ String.intercalate ("," ++ margin (depth + 1)) lines ++
    margin depth ++ closing

mutual

def indentedText (depth : Nat) : Json → String
  | .array (item :: rest) =>
      bracketLines depth "[" "]" (indentedItems (depth + 1) (item :: rest))
  | .object (field :: rest) =>
      bracketLines depth "\x7b" "\x7d" (indentedFields (depth + 1) (field :: rest))
  | scalar => scalarText scalar

def indentedItems (depth : Nat) : List Json → List String
  | [] => []
  | item :: rest => indentedText depth item :: indentedItems depth rest

def indentedFields (depth : Nat) : List (String × Json) → List String
  | [] => []
  | (name, value) :: rest =>
      (asciiString name ++ ": " ++ indentedText depth value) :: indentedFields depth rest

end

end LedgerRules.Json
