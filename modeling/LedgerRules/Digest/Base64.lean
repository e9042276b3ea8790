import LedgerRules.Text.Utf8

/-!
Base64 text of a byte sequence, and back.
-/

namespace LedgerRules.Base64

def digit (value : Nat) : Char :=
  if value < 26 then Char.ofNat (65 + value)
  else if value < 52 then Char.ofNat (97 + (value - 26))
  else if value < 62 then Char.ofNat (48 + (value - 52))
  else if value = 62 then '+' else '/'

def digitValue? (character : Char) : Option Nat :=
  if character.isUpper then some (character.toNat - 65)
  else if character.isLower then some (character.toNat - 97 + 26)
  else if character.isDigit then some (character.toNat - 48 + 52)
  else if character == '+' then some 62
  else if character == '/' then some 63
  else none

def encodeBytes : Bytes → List Char
  | a :: b :: c :: rest =>
      let group := a.toNat * 65536 + b.toNat * 256 + c.toNat
      digit (group / 262144) :: digit (group / 4096 % 64) :: digit (group / 64 % 64) ::
        digit (group % 64) :: encodeBytes rest
  | [a, b] =>
      let group := a.toNat * 65536 + b.toNat * 256
      [digit (group / 262144), digit (group / 4096 % 64), digit (group / 64 % 64), '=']
  | [a] =>
      let group := a.toNat * 65536
      [digit (group / 262144), digit (group / 4096 % 64), '=', '=']
  | [] => []

def encode (bytes : Bytes) : String := String.ofList (encodeBytes bytes)

/-- Reads digits in groups of four. `held` holds the bits of the current group, `digits` counts its
digits and `pads` the pad characters seen since the last digit. Characters that are no digits are
passed over, and a group that is padded in full ends the text. -/
def decodeFrom : (held digits pads : Nat) → List Char → Option Bytes
  | _, digits, _, [] => if digits = 0 then some [] else none
  | held, digits, pads, character :: rest =>
      if character == '=' then
        if 2 ≤ digits && 4 ≤ digits + (pads + 1) then some []
        else decodeFrom held digits (pads + 1) rest
      else
        match digitValue? character with
        | none => decodeFrom held digits pads rest
        | some value =>
            if digits = 0 then decodeFrom value 1 0 rest
            else if digits = 1 then
              (decodeFrom (value % 16) 2 0 rest).map (UInt8.ofNat (held * 4 + value / 16) :: ·)
            else if digits = 2 then
              (decodeFrom (value % 4) 3 0 rest).map (UInt8.ofNat (held * 16 + value / 4) :: ·)
            else (decodeFrom 0 0 0 rest).map (UInt8.ofNat (held * 64 + value) :: ·)

def decode? (characters : List Char) : Option Bytes := decodeFrom 0 0 0 characters

end LedgerRules.Base64
