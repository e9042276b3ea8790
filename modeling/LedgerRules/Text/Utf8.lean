import LedgerRules.Text.Digit

/-!
UTF-8: characters as bytes and back. A byte sequence that is no character is a fault of a certain
length; strict decoding stops at the first fault, lenient decoding puts a replacement character in
the place of each.
-/

namespace LedgerRules

abbrev Bytes := List UInt8

namespace Utf8

def encodeCharacter (character : Char) : Bytes :=
  let code := character.toNat
  let continuation (bits : Nat) : UInt8 := UInt8.ofNat (0x80 + bits % 64)
  if code < 0x80 then [UInt8.ofNat code]
  else if code < 0x800 then [UInt8.ofNat (0xC0 + code / 64), continuation code]
  else if code < 0x10000 then
    [UInt8.ofNat (0xE0 + code / 4096), continuation (code / 64), continuation code]
  else
    [UInt8.ofNat (0xF0 + code / 262144), continuation (code / 4096), continuation (code / 64),
      continuation code]

def encode (text : String) : Bytes := text.toList.flatMap encodeCharacter

inductive FaultKind where
  | invalidStart
  | invalidContinuation
  | unexpectedEnd
  deriving DecidableEq, Repr

structure Fault where
  kind : FaultKind
  length : Nat

def isContinuation (byte : UInt8) : Bool := 0x80 ≤ byte.toNat && byte.toNat ≤ 0xBF

/-- How many bytes follow a first byte, and the range of the first of them. -/
def followers? (first : Nat) : Option (Nat × Nat × Nat) :=
  if 0xC2 ≤ first && first ≤ 0xDF then some (1, 0x80, 0xBF)
  else if first == 0xE0 then some (2, 0xA0, 0xBF)
  else if first == 0xED then some (2, 0x80, 0x9F)
  else if 0xE1 ≤ first && first ≤ 0xEF then some (2, 0x80, 0xBF)
  else if first == 0xF0 then some (3, 0x90, 0xBF)
  else if first == 0xF4 then some (3, 0x80, 0x8F)
  else if 0xF1 ≤ first && first ≤ 0xF3 then some (3, 0x80, 0xBF)
  else none

def readContinuations : (count read code : Nat) → Bytes → Except Fault (Nat × Bytes)
  | 0, _, code, rest => .ok (code, rest)
  | _ + 1, read, _, [] => .error ⟨.unexpectedEnd, read⟩
  | count + 1, read, code, byte :: rest =>
      if isContinuation byte then
        readContinuations count (read + 1) (code * 64 + (byte.toNat - 0x80)) rest
      else .error ⟨.invalidContinuation, read⟩

def decodeCharacter (first : UInt8) (rest : Bytes) : Except Fault (Char × Bytes) :=
  let byte := first.toNat
  if byte < 0x80 then .ok (Char.ofNat byte, rest)
  else
    match followers? byte with
    | none => .error ⟨.invalidStart, 1⟩
    | some (count, low, high) =>
        match rest with
        | [] => .error ⟨.unexpectedEnd, 1⟩
        | second :: remaining =>
            if second.toNat < low || high < second.toNat then .error ⟨.invalidContinuation, 1⟩
            else
              let lead := byte % (if count = 1 then 32 else if count = 2 then 16 else 8)
              let code := lead * 64 + (second.toNat - 0x80)
              (readContinuations (count - 1) 2 code remaining).map fun (code, remaining) =>
                (Char.ofNat code, remaining)

structure DecodingError where
  kind : FaultKind
  position : Nat
  bytes : Bytes

def FaultKind.text : FaultKind → String
  | .invalidStart => "invalid start byte"
  | .invalidContinuation => "invalid continuation byte"
  | .unexpectedEnd => "unexpected end of data"

def DecodingError.message (error : DecodingError) : String :=
  match error.bytes with
  | [byte] =>
      "'utf-8' codec can't decode byte 0x" ++ String.ofList (Text.hexDigits 2 byte.toNat) ++
        " in position " ++ toString error.position ++ ": " ++ error.kind.text
  | bytes =>
      "'utf-8' codec can't decode bytes in position " ++ toString error.position ++ "-" ++
        toString (error.position + bytes.length - 1) ++ ": " ++ error.kind.text

/-- Decodes at most `steps` characters; the number of bytes is always enough. -/
def decodeFrom : (steps position : Nat) → Bytes → Except DecodingError (List Char)
  | _, _, [] => .ok []
  | 0, _, _ => .ok []
  | steps + 1, position, first :: rest =>
      match decodeCharacter first rest with
      | .error fault => .error ⟨fault.kind, position, (first :: rest).take fault.length⟩
      | .ok (character, remaining) =>
          let length := (encodeCharacter character).length
          (decodeFrom steps (position + length) remaining).map (character :: ·)

def decode? (bytes : Bytes) : Except DecodingError String :=
  (decodeFrom bytes.length 0 bytes).map String.ofList

def decodeLenientFrom : (steps : Nat) → Bytes → List Char
  | _, [] => []
  | 0, _ => []
  | steps + 1, first :: rest =>
      match decodeCharacter first rest with
      | .error fault => '\uFFFD' :: decodeLenientFrom steps ((first :: rest).drop fault.length)
      | .ok (character, remaining) => character :: decodeLenientFrom steps remaining

def decodeLenient (bytes : Bytes) : String :=
  String.ofList (decodeLenientFrom bytes.length bytes)

end Utf8

end LedgerRules
