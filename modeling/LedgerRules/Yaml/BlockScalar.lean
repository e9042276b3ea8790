import LedgerRules.Yaml.Source

/-!
Scalars that are written as indented blocks of lines, literally or folded.
-/

namespace LedgerRules.Yaml

open Reading

inductive Chomping where
  | strip
  | clip
  | keep
  deriving DecidableEq, Repr

def chompingOf? (character : Char) : Option Chomping :=
  if character == '+' then some .keep
  else if character == '-' then some .strip
  else none

def chomping? : Reading (Option Chomping) := do
  match (← peek).bind chompingOf? with
  | some chomping =>
      forward 1
      return some chomping
  | none => return none

def indentation? : Reading (Option Nat) := do
  match ← peek with
  | some digit =>
      if digit.isDigit then
        if digit == '0' then fail
        forward 1
        return some (digit.toNat - 48)
      return none
  | none => return none

def blockHeader : Reading (Chomping × Option Nat) := do
  let before ← chomping?
  let indentation ← indentation?
  let after ← if before.isNone && indentation.isSome then chomping? else pure none
  if !endsWord (← peek) then fail
  return ((before <|> after).getD .clip, indentation)

/-- The empty lines at the beginning of a block and the largest column that their spaces reach. -/
def leadingBreaks : (steps widest : Nat) → Reading (List Char × Nat)
  | 0, widest => return ([], widest)
  | steps + 1, widest => do
      skipSpaces
      let widest := max widest (← get).column
      match ← lineBreak with
      | none => return ([], widest)
      | some first =>
          let (others, widest) ← leadingBreaks steps widest
          return (first :: others, widest)

def skipIndent (indent : Nat) : Reading Unit := do
  let source ← get
  let spaces := source.rest.takeWhile (· == ' ')
  forward (min spaces.length (indent - source.column))

def blockBreaks (indent : Nat) : (steps : Nat) → Reading (List Char)
  | 0 => return []
  | steps + 1 => do
      skipIndent indent
      match ← lineBreak with
      | none => return []
      | some first => return first :: (← blockBreaks indent steps)

def isInBlock (indent : Nat) : Reading Bool := do
  let source ← get
  return source.column == indent && !source.rest.isEmpty

def startsWithBlank : Reading Bool := do
  match ← peek with
  | some character => return character == ' ' || character == '\t'
  | none => return false

/-- The lines of a block with the breaks between them, the break after the last line and the empty
lines after that. `breaks` are the empty lines before the next line. -/
def blockLines (isFolded : Bool) (indent : Nat) :
    (steps : Nat) → (breaks : List Char) → Reading (List Char × List Char × List Char)
  | 0, breaks => return ([], [], breaks)
  | steps + 1, breaks => do
      if !(← isInBlock indent) then return ([], [], breaks)
      let isText := !(← startsWithBlank)
      let line ← takeWhile (!isBreak ·)
      let lineEnd ← lineBreak
      let after ← blockBreaks indent (steps + 1)
      if ← isInBlock indent then
        let joins := isFolded && lineEnd == some '\n' && isText && !(← startsWithBlank)
        let join :=
          if joins then (if after.isEmpty then [' '] else []) else lineEnd.toList
        let (others, lastEnd, last) ← blockLines isFolded indent steps after
        return (breaks ++ line ++ join ++ others, lastEnd, last)
      return (breaks ++ line, lineEnd.toList, after)

/-- A block scalar inside a collection of the given indentation, from its indicator on. There are
at least as many steps as characters that are left. -/
def blockScalar (steps : Nat) (isFolded : Bool) (parentIndent : Int) : Reading String := do
  forward 1
  let (chomping, indentation) ← blockHeader
  blankLine
  let least := max 1 (parentIndent + 1).toNat
  let (breaks, indent) ←
    match indentation with
    | none => do
        let (breaks, widest) ← leadingBreaks steps 0
        pure (breaks, max least widest)
    | some depth => do
        let indent := least + depth - 1
        pure (← blockBreaks indent steps, indent)
  let (lines, lastEnd, last) ← blockLines isFolded indent steps breaks
  let ending :=
    match chomping with
    | .strip => []
    | .clip => lastEnd
    | .keep => lastEnd ++ last
  return String.ofList (lines ++ ending)

end LedgerRules.Yaml
