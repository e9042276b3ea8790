import LedgerRules.Json.Basic
import LedgerRules.Number.Reader
import LedgerRules.Text.LineBreak

/-!
Reading JSON text. Beyond the standard, the words `NaN`, `Infinity` and `-Infinity` are numbers. A
repeated field keeps its first place and its last value. A failure names its cause and the place in
the text where it was noticed.
-/

namespace LedgerRules.Json

inductive Fault where
  | byteOrderMark
  | expectedValue
  | expectedName
  | expectedColon
  | expectedComma
  | unterminatedString
  | controlCharacter
  | invalidEscape
  | invalidUnicodeEscape
  | extraData
  | integerTooLong (digits : Nat)
  deriving DecidableEq, Repr

structure ReadingError where
  fault : Fault
  position : Nat
  line : Nat
  column : Nat

def Fault.text : Fault → String
  | .byteOrderMark => "Unexpected UTF-8 BOM (decode using utf-8-sig)"
  | .expectedValue => "Expecting value"
  | .expectedName => "Expecting property name enclosed in double quotes"
  | .expectedColon => "Expecting ':' delimiter"
  | .expectedComma => "Expecting ',' delimiter"
  | .unterminatedString => "Unterminated string starting at"
  | .controlCharacter => "Invalid control character at"
  | .invalidEscape => "Invalid \\escape"
  | .invalidUnicodeEscape => "Invalid \\uXXXX escape"
  | .extraData => "Extra data"
  | .integerTooLong digits => tooLongToRead digits

/-- Whether the text is malformed; otherwise it holds a whole number too long to be read. -/
def ReadingError.isMalformed (error : ReadingError) : Bool :=
  match error.fault with
  | .integerTooLong _ => false
  | _ => true

def ReadingError.message (error : ReadingError) : String :=
  if error.isMalformed then
    error.fault.text ++ ": line " ++ toString error.line ++ " column " ++ toString error.column ++
      " (char " ++ toString error.position ++ ")"
  else error.fault.text

abbrev Attempt := Except (Fault × List Char)

def isSpace (character : Char) : Bool :=
  character == ' ' || character == '\t' || character == '\n' || character == '\r'

def skipSpaces (characters : List Char) : List Char := characters.dropWhile isSpace

def readFourHex : List Char → Option (Nat × List Char)
  | first :: second :: third :: fourth :: rest =>
      match Text.hexValue? first, Text.hexValue? second, Text.hexValue? third,
          Text.hexValue? fourth with
      | some a, some b, some c, some d => some (Text.ofDigitValues 16 [a, b, c, d], rest)
      | _, _, _, _ => none
  | _ => none

def isHighSurrogate (code : Nat) : Bool := 0xD800 ≤ code && code ≤ 0xDBFF
def isLowSurrogate (code : Nat) : Bool := 0xDC00 ≤ code && code ≤ 0xDFFF

def characterOf (code : Nat) : Char :=
  if 0xD800 ≤ code && code ≤ 0xDFFF then '\uFFFD' else Char.ofNat code

/-- The character after `\u`; `marker` is the text from the `u` on. -/
def readUnicodeEscape (marker rest : List Char) : Attempt (Char × List Char) :=
  match readFourHex rest with
  | none => .error (.invalidUnicodeEscape, marker)
  | some (_, []) => .error (.invalidUnicodeEscape, marker)
  | some (code, remaining) =>
      match isHighSurrogate code, remaining with
      | true, '\\' :: 'u' :: low =>
          if low.length ≤ 4 then .ok (characterOf code, remaining)
          else
            match readFourHex low with
            | none => .error (.invalidUnicodeEscape, 'u' :: low)
            | some (second, afterPair) =>
                if isLowSurrogate second then
                  .ok (Char.ofNat (0x10000 + (code - 0xD800) * 1024 + (second - 0xDC00)), afterPair)
                else .ok (characterOf code, remaining)
      | _, _ => .ok (characterOf code, remaining)

def simpleEscape? (character : Char) : Option Char :=
  match character with
  | '"' => some '"'
  | '\\' => some '\\'
  | '/' => some '/'
  | 'b' => some '\x08'
  | 'f' => some '\x0C'
  | 'n' => some '\n'
  | 'r' => some '\r'
  | 't' => some '\t'
  | _ => none

def readStringFrom (opening : List Char) :
    (steps : Nat) → List Char → Attempt (List Char × List Char)
  | 0, _ => .error (.unterminatedString, opening)
  | _, [] => .error (.unterminatedString, opening)
  | steps + 1, character :: rest =>
      if character == '"' then .ok ([], rest)
      else if character == '\\' then
        match rest with
        | [] => .error (.unterminatedString, opening)
        | 'u' :: afterMarker => do
            let (decoded, rest) ← readUnicodeEscape rest afterMarker
            let (decodedRest, rest) ← readStringFrom opening steps rest
            .ok (decoded :: decodedRest, rest)
        | escape :: afterEscape =>
            match simpleEscape? escape with
            | none => .error (.invalidEscape, character :: rest)
            | some decoded => do
                let (decodedRest, rest) ← readStringFrom opening steps afterEscape
                .ok (decoded :: decodedRest, rest)
      else if character.toNat ≤ 0x1F then .error (.controlCharacter, character :: rest)
      else do
        let (decodedRest, rest) ← readStringFrom opening steps rest
        .ok (character :: decodedRest, rest)

def readString (opening rest : List Char) : Attempt (String × List Char) :=
  (readStringFrom opening (rest.length + 1) rest).map fun (characters, rest) =>
    (String.ofList characters, rest)

def takeFraction : List Char → List Nat × List Char
  | '.' :: rest =>
      match takeDigits rest with
      | ([], _) => ([], '.' :: rest)
      | taken => taken
  | characters => ([], characters)

def takeExponent : List Char → Option Int × List Char
  | [] => (none, [])
  | mark :: rest =>
      if mark == 'e' || mark == 'E' then
        let (negative, afterSign) := takeSign rest
        match takeDigits afterSign with
        | ([], _) => (none, mark :: rest)
        | (values, remaining) =>
            let size : Int := Text.ofDigitValues 10 values
            (some (if negative then -size else size), remaining)
      else (none, mark :: rest)

def takeWhole : List Char → List Nat × List Char
  | '0' :: rest => ([0], rest)
  | characters => takeDigits characters

def readNumber (negative : Bool) (start characters : List Char) : Attempt (Json × List Char) :=
  match takeWhole characters with
  | ([], _) => .error (.expectedValue, start)
  | (whole, rest) =>
      let (fraction, rest) := takeFraction rest
      let (exponent, rest) := takeExponent rest
      match fraction, exponent with
      | [], none =>
          if mostDigits < whole.length then .error (.integerTooLong whole.length, start)
          else
            let size : Int := Text.ofDigitValues 10 whole
            .ok (.integer (if negative then -size else size), rest)
      | _, _ =>
          .ok (.double (Double.ofDecimal negative (Text.ofDigitValues 10 (whole ++ fraction))
            (exponent.getD 0 - fraction.length)), rest)

def readScalar (characters : List Char) : Attempt (Json × List Char) :=
  match characters with
  | 'n' :: 'u' :: 'l' :: 'l' :: rest => .ok (.null, rest)
  | 't' :: 'r' :: 'u' :: 'e' :: rest => .ok (.bool true, rest)
  | 'f' :: 'a' :: 'l' :: 's' :: 'e' :: rest => .ok (.bool false, rest)
  | 'N' :: 'a' :: 'N' :: rest => .ok (.double .notANumber, rest)
  | 'I' :: 'n' :: 'f' :: 'i' :: 'n' :: 'i' :: 't' :: 'y' :: rest =>
      .ok (.double (.infinite false), rest)
  | '-' :: 'I' :: 'n' :: 'f' :: 'i' :: 'n' :: 'i' :: 't' :: 'y' :: rest =>
      .ok (.double (.infinite true), rest)
  | '-' :: rest => readNumber true characters rest
  | _ => readNumber false characters characters

mutual

/-- Reads one value. Each step takes at least one character, so the length of the text bounds the
steps. -/
def readValue : (steps : Nat) → List Char → Attempt (Json × List Char)
  | 0, characters => .error (.expectedValue, characters)
  | steps + 1, characters =>
      match characters with
      | '"' :: rest => (readString characters rest).map fun (text, rest) => (.string text, rest)
      | '[' :: rest =>
          match skipSpaces rest with
          | ']' :: rest => .ok (.array [], rest)
          | rest => (readItems steps rest).map fun (items, rest) => (.array items, rest)
      | '{' :: rest =>
          match skipSpaces rest with
          | '}' :: rest => .ok (.object [], rest)
          | rest => (readFields steps [] rest).map fun (fields, rest) => (.object fields, rest)
      | _ => readScalar characters

def readItems : (steps : Nat) → List Char → Attempt (List Json × List Char)
  | 0, characters => .error (.expectedValue, characters)
  | steps + 1, characters => do
      let (item, rest) ← readValue steps characters
      match skipSpaces rest with
      | ']' :: rest => .ok ([item], rest)
      | ',' :: rest =>
          let (items, rest) ← readItems steps (skipSpaces rest)
          .ok (item :: items, rest)
      | rest => .error (.expectedComma, rest)

def readFields : (steps : Nat) → Fields → List Char → Attempt (Fields × List Char)
  | 0, _, characters => .error (.expectedName, characters)
  | steps + 1, fields, characters =>
      match characters with
      | '"' :: afterQuote => do
          let (name, rest) ← readString characters afterQuote
          match skipSpaces rest with
          | ':' :: rest =>
              let (value, rest) ← readValue steps (skipSpaces rest)
              let fields := fields.insert name value
              match skipSpaces rest with
              | '}' :: rest => .ok (fields, rest)
              | ',' :: rest => readFields steps fields (skipSpaces rest)
              | rest => .error (.expectedComma, rest)
          | rest => .error (.expectedColon, rest)
      | _ => .error (.expectedName, characters)

end

def errorAt (characters : List Char) (fault : Fault) (remaining : List Char) : ReadingError :=
  let position := characters.length - remaining.length
  let (line, column) := Text.lineAndColumn characters position
  ⟨fault, position, line, column⟩

def readCharacters (characters : List Char) : Except (Fault × List Char) Json := do
  if characters.head? == some '\uFEFF' then throw (.byteOrderMark, characters)
  let (value, rest) ← readValue (characters.length + 1) (skipSpaces characters)
  match skipSpaces rest with
  | [] => return value
  | rest => throw (.extraData, rest)

def read (text : String) : Except ReadingError Json :=
  (readCharacters text.toList).mapError fun (fault, remaining) =>
    errorAt text.toList fault remaining

end LedgerRules.Json
