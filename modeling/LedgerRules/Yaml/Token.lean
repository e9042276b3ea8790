import LedgerRules.Yaml.BlockScalar
import LedgerRules.Yaml.FlowScalar
import LedgerRules.Yaml.Tag

/-!
Tokens of a YAML text. Block structure is made explicit: where the indentation begins or ends a
collection there is a token for it, and a key that is recognised by the colon behind it gets the
token of a key before it.
-/

namespace LedgerRules.Yaml

open Reading

inductive Directive where
  | version (major : Nat)
  | tagHandle (handle expansion : String)
  | other
  deriving DecidableEq, Repr

inductive Token where
  | directive (directive : Directive)
  | documentStart
  | documentEnd
  | streamEnd
  | blockSequenceStart
  | blockMappingStart
  | blockEnd
  | flowSequenceStart
  | flowSequenceEnd
  | flowMappingStart
  | flowMappingEnd
  | blockEntry
  | flowEntry
  | key
  | value
  | alias (name : String)
  | anchor (name : String)
  | tag (tag : WrittenTag)
  | scalar (text : String) (isPlain : Bool)
  deriving DecidableEq, Repr

def directiveNumber : Reading Nat := do
  let digits ← takeWhile Char.isDigit
  if digits.isEmpty then fail
  return Text.ofDigitValues 10 (digits.map fun digit => digit.toNat - 48)

def versionDirective : Reading Directive := do
  skipSpaces
  let major ← directiveNumber
  if (← peek) != some '.' then fail
  forward 1
  let _ ← directiveNumber
  if !endsWord (← peek) then fail
  return .version major

def tagDirective : Reading Directive := do
  skipSpaces
  let handle ← tagHandle
  if (← peek) != some ' ' then fail
  skipSpaces
  let expansion ← uri
  if !endsWord (← peek) then fail
  return .tagHandle handle expansion

def directive : Reading Directive := do
  forward 1
  let name ← takeWhile isNameCharacter
  if name.isEmpty || !endsWord (← peek) then fail
  let directive ←
    if name == "YAML".toList then versionDirective
    else if name == "TAG".toList then tagDirective
    else do
      let _ ← takeWhile (!isBreak ·)
      pure .other
  blankLine
  return directive

def endsAnchor : Option Char → Bool
  | none => true
  | some character => isTokenEnd character || "?:,]\x7d%@`".contains character

def anchorName : Reading String := do
  forward 1
  let name ← takeWhile isNameCharacter
  if name.isEmpty || !endsAnchor (← peek) then fail
  return String.ofList name

/-- A place where a key may have begun: the number of its first token, and where that stands. A key
is required where its column is the indentation of the block. -/
structure PossibleKey where
  token : Nat
  isRequired : Bool
  index : Nat
  line : Nat
  column : Nat

/-- A text while its tokens are read. There is at most one possible key in each flow collection that
is open, the innermost first, and one in the block around them; `none` stands for a collection
without one. -/
structure Scanner where
  source : Source
  tokens : Array Token := #[]
  indent : Int := -1
  outerIndents : List Int := []
  allowsKey : Bool := true
  possibleKey : Option PossibleKey := none
  outerKeys : List (Option PossibleKey) := []

/-- A step of a scanner. The tokens read so far are kept if it fails. -/
abbrev Scan := ExceptT Fault (StateM Scanner)

namespace Scan

def fail {α : Type} : Scan α := throw .malformed

def read {α : Type} (reading : Reading α) : Scan α := do
  let scanner ← get
  match reading.run scanner.source with
  | .ok (result, source) =>
      set { scanner with source }
      return result
  | .error fault => throw fault

def emit (token : Token) : Scan Unit :=
  modify fun scanner => { scanner with tokens := scanner.tokens.push token }

def allowKey (isAllowed : Bool) : Scan Unit :=
  modify fun scanner => { scanner with allowsKey := isAllowed }

def inFlow : Scan Bool := return !(← get).outerKeys.isEmpty

def longestKey : Nat := 1024

def isStale (source : Source) (key : PossibleKey) : Bool :=
  key.line != source.line || longestKey < source.index - key.index

/-- Gives up keys that would span lines or be too long. A required one must not be given up. -/
def dropStaleKeys : Scan Unit := do
  let scanner ← get
  let isStale (key : Option PossibleKey) : Bool := key.any (Scan.isStale scanner.source)
  let fresh (key : Option PossibleKey) : Option PossibleKey := if isStale key then none else key
  let keys := scanner.possibleKey :: scanner.outerKeys
  if keys.any fun key => isStale key && key.any (·.isRequired) then fail
  set
    { scanner with
      possibleKey := fresh scanner.possibleKey
      outerKeys := scanner.outerKeys.map fresh }

def dropKey : Scan Unit := do
  if (← get).possibleKey.any (·.isRequired) then fail
  modify fun scanner => { scanner with possibleKey := none }

def noteKey : Scan Unit := do
  let scanner ← get
  if scanner.allowsKey then
    dropKey
    let source := scanner.source
    let isRequired := scanner.outerKeys.isEmpty && scanner.indent == source.column
    let key : PossibleKey :=
      ⟨scanner.tokens.size, isRequired, source.index, source.line, source.column⟩
    modify fun scanner => { scanner with possibleKey := some key }

def unwind (column : Int) : (indent : Int) → (outer : List Int) → Scan Unit
  | indent, [] => modify fun scanner => { scanner with indent, outerIndents := [] }
  | indent, next :: outer =>
      if column < indent then do
        emit .blockEnd
        unwind column next outer
      else modify fun scanner => { scanner with indent, outerIndents := next :: outer }

def unwindTo (column : Int) : Scan Unit := do
  if !(← inFlow) then
    let scanner ← get
    unwind column scanner.indent scanner.outerIndents

def indentTo (column : Nat) : Scan Bool := do
  let scanner ← get
  if scanner.indent < column then
    set
      { scanner with
        indent := column
        outerIndents := scanner.indent :: scanner.outerIndents }
    return true
  return false

/-- Passes over spaces, comments and line breaks. A key may begin on a new line of a block. -/
def skipToToken : (steps : Nat) → Scan Unit
  | 0 => return
  | steps + 1 => do
      read (do skipSpaces; skipComment)
      if (← read lineBreak).isSome then
        if !(← inFlow) then allowKey true
        skipToToken steps

def skipByteOrderMark : Scan Unit := do
  let source := (← get).source
  if source.index == 0 && source.rest.head? == some '\uFEFF' then read (forward 1)

def single (token : Token) : Scan Unit := do
  read (forward 1)
  emit token

def atMargin (token : Scan Token) : Scan Unit := do
  unwindTo (-1)
  dropKey
  allowKey false
  emit (← token)

def openFlow (token : Token) : Scan Unit := do
  noteKey
  modify fun scanner =>
    { scanner with
      possibleKey := none
      outerKeys := scanner.possibleKey :: scanner.outerKeys
      allowsKey := true }
  single token

def closeFlow (token : Token) : Scan Unit := do
  dropKey
  match (← get).outerKeys with
  | [] => fail
  | key :: outer =>
      modify fun scanner =>
        { scanner with possibleKey := key, outerKeys := outer, allowsKey := false }
      single token

def beginBlock (start : Token) : Scan Unit := do
  if !(← inFlow) then
    if !(← get).allowsKey then fail
    if ← indentTo (← get).source.column then emit start

def blockEntry : Scan Unit := do
  beginBlock .blockSequenceStart
  allowKey true
  dropKey
  single .blockEntry

def flowEntry : Scan Unit := do
  allowKey true
  dropKey
  single .flowEntry

def explicitKey : Scan Unit := do
  beginBlock .blockMappingStart
  allowKey (!(← inFlow))
  dropKey
  single .key

def insert (place : Nat) (token : Token) : Scan Unit :=
  modify fun scanner => { scanner with tokens := scanner.tokens.insertIdxIfInBounds place token }

/-- A colon: it shows that what may have been a key is one, or it belongs to a key that was begun
by a question mark. -/
def value : Scan Unit := do
  match (← get).possibleKey with
  | some key =>
      modify fun scanner => { scanner with possibleKey := none }
      insert key.token .key
      if !(← inFlow) then
        if ← indentTo key.column then insert key.token .blockMappingStart
      allowKey false
  | none =>
      beginBlock .blockMappingStart
      allowKey (!(← inFlow))
      dropKey
  single .value

/-- A token that may begin a key and that no key can follow at once. -/
def mayBeKey (token : Reading Token) : Scan Unit := do
  noteKey
  allowKey false
  emit (← read token)

def block (steps : Nat) (isFolded : Bool) : Scan Unit := do
  allowKey true
  dropKey
  let indent := (← get).indent
  emit (.scalar (← read (blockScalar steps isFolded indent)) false)

def plain (steps : Nat) : Scan Unit := do
  noteKey
  let (text, lineEnded) ← read (plainScalar steps (← inFlow) ((← get).indent + 1))
  allowKey lineEnded
  emit (.scalar text true)

def beginsPlain (inFlow : Bool) (character : Char) (after : Option Char) : Bool :=
  !(isTokenEnd character || "-?:,[]\x7b\x7d#&*!|>'\"%@`".contains character) ||
    (!endsToken after && (character == '-' || (!inFlow && (character == '?' || character == ':'))))

def dispatch (steps : Nat) (character : Char) (after : Option Char) : Scan Unit := do
  let inFlow ← inFlow
  let source := (← get).source
  let atMarker := source.column == 0 && source.isAtMarker
  let marker (token : Token) : Scan Token := do
    read (forward 3)
    return token
  if character == '%' && source.column == 0 then atMargin (.directive <$> read directive)
  else if character == '-' && atMarker then atMargin (marker .documentStart)
  else if character == '.' && atMarker then atMargin (marker .documentEnd)
  else if character == '[' then openFlow .flowSequenceStart
  else if character == '\x7b' then openFlow .flowMappingStart
  else if character == ']' then closeFlow .flowSequenceEnd
  else if character == '\x7d' then closeFlow .flowMappingEnd
  else if character == ',' then flowEntry
  else if character == '-' && endsToken after then blockEntry
  else if character == '?' && (inFlow || endsToken after) then explicitKey
  else if character == ':' && (inFlow || endsToken after) then value
  else if character == '*' then mayBeKey (.alias <$> anchorName)
  else if character == '&' then mayBeKey (.anchor <$> anchorName)
  else if character == '!' then mayBeKey (.tag <$> writtenTag)
  else if character == '|' && !inFlow then block steps false
  else if character == '>' && !inFlow then block steps true
  else if character == '\'' then mayBeKey ((.scalar · false) <$> quotedScalar steps false)
  else if character == '"' then mayBeKey ((.scalar · false) <$> quotedScalar steps true)
  else if beginsPlain inFlow character after then plain steps
  else fail

def all : (steps : Nat) → Scan Unit
  | 0 => return
  | steps + 1 => do
      skipByteOrderMark
      skipToToken (steps + 1)
      dropStaleKeys
      unwindTo (← get).source.column
      match (← get).source.rest with
      | [] => atMargin (pure .streamEnd)
      | character :: rest =>
          dispatch (steps + 1) character rest.head?
          all steps

end Scan

structure Tokens where
  tokens : List Token
  fault : Option Fault

def Tokens.ofCharacters (characters : List Char) : Tokens :=
  let scanner : Scanner := { source := Source.ofCharacters characters }
  let (result, scanner) := (Scan.all (characters.length + 1)).run scanner
  match result with
  | .ok _ => ⟨scanner.tokens.toList, none⟩
  | .error fault => ⟨scanner.tokens.toList, some fault⟩

end LedgerRules.Yaml
