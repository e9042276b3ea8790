import LedgerRules.Number.Arithmetic
import LedgerRules.Number.Reader
import LedgerRules.Text.Split
import LedgerRules.Yaml.Fault

/-!
Numbers as YAML writes them: whole ones to four bases or in parts to the base sixty, and floating
point ones, which may be in such parts too. Low lines count nowhere.
-/

namespace LedgerRules.Yaml

open Text (splitAt)

def signed (characters : List Char) : Except Fault (Bool × List Char) :=
  match characters.filter (· != '_') with
  | [] => .error .emptyNumber
  | '-' :: rest => .ok (true, rest)
  | '+' :: rest => .ok (false, rest)
  | rest => .ok (false, rest)

def decimal (characters : List Char) : Except Fault Int :=
  let text := String.ofList characters
  match readInteger? text with
  | some value => .ok value
  | none =>
      let digits := (takeSign (Text.trimBlanks characters)).2
      if mostDigits < digits.length && digits.all Text.isDigit then
        .error (.integerTooLong digits.length)
      else .error (.integerText text 10)

def inBase (base : Nat) (characters : List Char) : Except Fault Int :=
  let text := String.ofList characters
  match readIntegerInBase? base text with
  | some value => .ok value
  | none => .error (.integerText text base)

def ofSixtieths (parts : List Int) : Int := parts.foldl (fun value part => value * 60 + part) 0

def unsignedInteger (characters : List Char) : Except Fault Int :=
  match characters with
  | [] => .error .emptyNumber
  | ['0'] => .ok 0
  | '0' :: 'b' :: digits => inBase 2 digits
  | '0' :: 'x' :: digits => inBase 16 digits
  | '0' :: _ => inBase 8 characters
  | _ =>
      if characters.contains ':' then
        ((splitAt ':' characters).mapM decimal).map ofSixtieths
      else decimal characters

def integer (text : String) : Except Fault Int := do
  let (negative, rest) ← signed text.toList
  let size ← unsignedInteger rest
  return if negative then -size else size

def floatPart (characters : List Char) : Except Fault Double :=
  let text := String.ofList characters
  match Double.read? text with
  | some value => .ok value
  | none => .error (.numberText text)

def sumOfParts (base : Nat) (sum : Double) : List Double → Double
  | [] => sum
  | part :: rest => sumOfParts (base * 60) (sum.plus (part.times (Double.ofInt base))) rest

def unsignedFloat (characters : List Char) : Except Fault Double :=
  if characters == ".inf".toList then .ok (.infinite false)
  else if characters == ".nan".toList then .ok .notANumber
  else if characters.contains ':' then do
    let parts ← (splitAt ':' characters).mapM floatPart
    return sumOfParts 1 (Double.zero false) parts.reverse
  else floatPart characters

def float (text : String) : Except Fault Double := do
  let (negative, rest) ← signed (Text.lowerCase text).toList
  let size ← unsignedFloat rest
  return if negative then size.negate else size

end LedgerRules.Yaml
