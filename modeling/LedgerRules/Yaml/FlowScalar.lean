import LedgerRules.Yaml.Source

/-!
Scalars that are written within a line: plain ones and those in quotes. They may go on over several
lines, whose breaks are folded.
-/

namespace LedgerRules.Yaml

open Reading

def endsPlain (inFlow : Bool) (character : Char) (after : Option Char) : Bool :=
  isTokenEnd character ||
    (character == ':' && (endsToken after || (inFlow && after.any (",[]\x7b\x7d".contains ·)))) ||
    (inFlow && ",?[]\x7b\x7d".contains character)

def plainWord (inFlow : Bool) : List Char → List Char
  | [] => []
  | character :: rest =>
      if endsPlain inFlow character rest.head? then [] else character :: plainWord inFlow rest

/-- The line breaks after the first one in a plain scalar, with the spaces between them; `none` if a
document marker ends the scalar. -/
def plainBreaks : (steps : Nat) → Reading (Option (List Char))
  | 0 => return some []
  | steps + 1 => do
      skipSpaces
      match ← lineBreak with
      | none => return some []
      | some first =>
          if (← get).isAtMarker then return none
          return (← plainBreaks steps).map (first :: ·)

def plainGap (steps : Nat) : Reading (List Char × Bool) := do
  let spaces ← takeWhile (· == ' ')
  match ← lineBreak with
  | none => return (spaces, false)
  | some first =>
      if (← get).isAtMarker then return ([], true)
      match ← plainBreaks steps with
      | none => return ([], true)
      | some others => return (foldBreaks first others, true)

/-- The words of a plain scalar with the gaps between them. `gap` is the gap before the next word,
`lineEnded` whether a line ended in it. -/
def plainWords (inFlow : Bool) (indent : Int) :
    (steps : Nat) → (gap : List Char) → (lineEnded : Bool) → Reading (List Char × Bool)
  | 0, _, lineEnded => return ([], lineEnded)
  | steps + 1, gap, lineEnded => do
      if (← peek) == some '#' then return ([], lineEnded)
      let word := plainWord inFlow (← get).rest
      if word.isEmpty then return ([], lineEnded)
      forward word.length
      let (nextGap, nextEnded) ← plainGap (steps + 1)
      let leavesBlock := !inFlow && ((← get).column : Int) < indent
      if nextGap.isEmpty || (← peek) == some '#' || leavesBlock then
        return (gap ++ word, nextEnded)
      let (others, lineEnded) ← plainWords inFlow indent steps nextGap nextEnded
      return (gap ++ word ++ others, lineEnded)

/-- A plain scalar, and whether a line ended behind its last word. The steps are at least as many as
the characters that are left, here and below. -/
def plainScalar (steps : Nat) (inFlow : Bool) (indent : Int) : Reading (String × Bool) := do
  let (characters, lineEnded) ← plainWords inFlow indent steps [] false
  return (String.ofList characters, lineEnded)

def simpleEscape? (letter : Char) : Option Char :=
  [('0', '\x00'), ('a', '\x07'), ('b', '\x08'), ('t', '\t'), ('\t', '\t'), ('n', '\n'),
    ('v', '\x0B'), ('f', '\x0C'), ('r', '\r'), ('e', '\x1B'), (' ', ' '), ('"', '"'),
    ('\\', '\\'), ('/', '/'), ('N', '\u0085'), ('_', '\u00A0'), ('L', '\u2028'),
    ('P', '\u2029')].lookup letter

def escapeLength? (letter : Char) : Option Nat :=
  [('x', 2), ('u', 4), ('U', 8)].lookup letter

def ofCode (code : Nat) : Except Fault Char :=
  if 0x80000000 ≤ code then .error .codeTooLarge
  else if 0x110000 ≤ code then .error .codePoint
  else if 0xD800 ≤ code ∧ code ≤ 0xDFFF then .ok '\uFFFD'
  else .ok (Char.ofNat code)

def quotedBreaks : (steps : Nat) → Reading (List Char)
  | 0 => return []
  | steps + 1 => do
      if (← get).isAtMarker then fail
      let _ ← takeWhile fun character => character == ' ' || character == '\t'
      match ← lineBreak with
      | none => return []
      | some first => return first :: (← quotedBreaks steps)

def escape (steps : Nat) : Reading (List Char) := do
  match ← peek with
  | none => fail
  | some letter =>
      match simpleEscape? letter, escapeLength? letter with
      | some character, _ =>
          forward 1
          return [character]
      | none, some digits =>
          forward 1
          let code ← hexNumber digits 0
          return [← ofCode code]
      | none, none =>
          match ← lineBreak with
          | none => fail
          | some _ => quotedBreaks steps

def quotedGap (steps : Nat) : Reading (List Char) := do
  let blanks ← takeWhile fun character => character == ' ' || character == '\t'
  match ← lineBreak with
  | none => return blanks
  | some first => return foldBreaks first (← quotedBreaks steps)

/-- The text up to the closing quote. Inside single quotes a doubled quote stands for one, inside
double quotes a backslash begins an escape. -/
def quotedText (isDouble : Bool) : (steps : Nat) → Reading (List Char)
  | 0 => fail
  | steps + 1 => do
      match (← get).rest with
      | [] => fail
      | character :: rest =>
          let quote := if isDouble then '"' else '\''
          if character == quote then
            forward 1
            if !isDouble && rest.head? == some quote then
              forward 1
              return quote :: (← quotedText isDouble steps)
            return []
          if isDouble && character == '\\' then
            forward 1
            let first ← escape (steps + 1)
            return first ++ (← quotedText isDouble steps)
          if isTokenEnd character then
            let first ← quotedGap (steps + 1)
            return first ++ (← quotedText isDouble steps)
          forward 1
          return character :: (← quotedText isDouble steps)

def quotedScalar (steps : Nat) (isDouble : Bool) : Reading String := do
  forward 1
  return String.ofList (← quotedText isDouble steps)

end LedgerRules.Yaml
