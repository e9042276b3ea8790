import LedgerRules.Text.Printable
import LedgerRules.Text.Digit

/-!
Quoted text, as it appears in messages. The quotes are single ones unless the text holds a single
quote and no double one. Printable characters stand for themselves; all others are escaped.
-/

namespace LedgerRules.Text

def numericEscape (code : Nat) : List Char :=
  if code < 0x100 then '\\' :: 'x' :: hexDigits 2 code
  else if code < 0x10000 then '\\' :: 'u' :: hexDigits 4 code
  else '\\' :: 'U' :: hexDigits 8 code

def quotedCharacter (quote character : Char) : List Char :=
  if character == quote || character == '\\' then ['\\', character]
  else if character == '\n' then ['\\', 'n']
  else if character == '\r' then ['\\', 'r']
  else if character == '\t' then ['\\', 't']
  else if isPrintable character then [character]
  else numericEscape character.toNat

def quoteFor (characters : List Char) : Char :=
  if characters.contains '\'' && !characters.contains '"' then '"' else '\''

def quoted (text : String) : String :=
  let quote := quoteFor text.toList
  String.ofList (quote :: text.toList.flatMap (quotedCharacter quote) ++ [quote])

def quotedBytes (bytes : List UInt8) : String :=
  let characters := bytes.map fun byte => Char.ofNat byte.toNat
  let quote := quoteFor characters
  let escape (character : Char) : List Char :=
    if character.toNat < 127 then quotedCharacter quote character
    else numericEscape character.toNat
  String.ofList ('b' :: quote :: characters.flatMap escape ++ [quote])

end LedgerRules.Text
