import LedgerRules.Yaml.Fault

/-!
A YAML text while it is read: the characters still to come and the place that has been reached.
Lines and columns decide about structure, so that every step forward keeps them up to date.
-/

namespace LedgerRules.Yaml

structure Source where
  rest : List Char
  index : Nat
  line : Nat
  column : Nat

abbrev Reading := StateT Source (Except Fault)

def isBreak (character : Char) : Bool :=
  character == '\n' || character == '\r' || character == '\u0085' || character == '\u2028' ||
    character == '\u2029'

def endsLine : Option Char → Bool
  | none => true
  | some character => isBreak character

def endsWord : Option Char → Bool
  | none => true
  | some character => character == ' ' || isBreak character

def isTokenEnd (character : Char) : Bool :=
  character == ' ' || character == '\t' || isBreak character

def endsToken : Option Char → Bool
  | none => true
  | some character => isTokenEnd character

def isAllowed (character : Char) : Bool :=
  let code := character.toNat
  code == 0x09 || code == 0x0A || code == 0x0D || (0x20 ≤ code && code ≤ 0x7E) || code == 0x85 ||
    (0xA0 ≤ code && code ≤ 0xFFFD) || 0x10000 ≤ code

def isNameCharacter (character : Char) : Bool :=
  character.isAlphanum || character == '-' || character == '_'

namespace Source

def ofCharacters (characters : List Char) : Source := ⟨characters, 0, 0, 0⟩

/-- One character further. A mark of the byte order takes no column. -/
def next (source : Source) : Source :=
  match source.rest with
  | [] => source
  | character :: rest =>
      let endsHere := isBreak character && !(character == '\r' && rest.head? == some '\n')
      { rest
        index := source.index + 1
        line := if endsHere then source.line + 1 else source.line
        column :=
          if endsHere then 0
          else if character == '\uFEFF' then source.column
          else source.column + 1 }

def advance : (count : Nat) → Source → Source
  | 0, source => source
  | count + 1, source => advance count source.next

def isAtMarker (source : Source) : Bool :=
  match source.rest with
  | '-' :: '-' :: '-' :: rest => endsToken rest.head?
  | '.' :: '.' :: '.' :: rest => endsToken rest.head?
  | _ => false

end Source

namespace Reading

def fail {α : Type} : Reading α := throw .malformed

def peek : Reading (Option Char) := return (← get).rest.head?

def peekAt (place : Nat) : Reading (Option Char) := return (← get).rest[place]?

def forward (count : Nat) : Reading Unit := modify (Source.advance count)

def takeWhile (wanted : Char → Bool) : Reading (List Char) := do
  let taken := (← get).rest.takeWhile wanted
  forward taken.length
  return taken

def skipSpaces : Reading Unit := do
  let _ ← takeWhile (· == ' ')

def skipComment : Reading Unit := do
  if (← peek) == some '#' then
    let _ ← takeWhile (!isBreak ·)

/-- A line break, if there is one here. Breaks of several kinds count as a line feed. -/
def lineBreak : Reading (Option Char) := do
  match (← get).rest with
  | '\r' :: '\n' :: _ =>
      forward 2
      return some '\n'
  | character :: _ =>
      if isBreak character then
        forward 1
        return some
          (if character == '\u2028' || character == '\u2029' then character else '\n')
      else return none
  | [] => return none

def blankLine : Reading Unit := do
  skipSpaces
  skipComment
  if endsLine (← peek) then
    let _ ← lineBreak
  else fail

def hexNumber : (count value : Nat) → Reading Nat
  | 0, value => return value
  | count + 1, value => do
      match (← peek).bind Text.hexValue? with
      | some digit =>
          forward 1
          hexNumber count (value * 16 + digit)
      | none => fail

end Reading

/-- Line breaks within a folded text: a single one is a space, further ones are kept. -/
def foldBreaks (first : Char) (others : List Char) : List Char :=
  (if first != '\n' then [first] else if others.isEmpty then [' '] else []) ++ others

end LedgerRules.Yaml
