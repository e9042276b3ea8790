import LedgerRules.Number.Reader
import LedgerRules.Pattern.Scanner
import LedgerRules.Text.Identifier

/-!
Reading a pattern's text into its structure. Groups are numbered in the order of their opening
parentheses; a reference may only name a group that is closed already.
-/

namespace LedgerRules.Pattern

open Text

structure Scope where
  characterNamed? : String → Option Nat
  flags : Flags
  groupNames : List (String × Nat) := []
  /-- The widths of the groups, in order; an open group has none yet. -/
  groupWidths : List (Option Width) := []
  /-- The number of the first group inside the outermost lookbehind being read. -/
  lookbehindGroups : Option Nat := none
  /-- The groups that conditions name, with the places of their names. -/
  conditions : List (Nat × Nat) := []

namespace Scope

def nextGroup (scope : Scope) : Nat := scope.groupWidths.length + 1

def closedWidth? (scope : Scope) (number : Nat) : Option Width :=
  match number with
  | 0 => none
  | index + 1 => (scope.groupWidths[index]?).join

end Scope

abbrev Reading := StateT (Scope × Place) Attempt

namespace Reading

def scope : Reading Scope := return (← get).1
def place : Reading Place := return (← get).2
def setPlace (place : Place) : Reading Unit := modify fun (scope, _) => (scope, place)
def changeScope (change : Scope → Scope) : Reading Unit :=
  modify fun (scope, place) => (change scope, place)

def refuse {α : Type} (fault : Fault) (offset : Nat := 0) : Reading α := do
  (← place).fail fault offset

def refuseAt {α : Type} (fault : Fault) (position : Nat) : Reading α :=
  throw (.malformed fault (some position))

def next : Reading (List Char) := return (← place).next
def position : Reading Nat := return (← place).position

def takePiece : Reading (List Char) := do
  let (piece, after) ← (← place).take
  setPlace after
  return piece

def takeIf (character : Char) : Reading Bool := do
  match ← (← place).takeIf character with
  | some after => setPlace after; return true
  | none => return false

def takeWhile (test : Char → Bool) (count : Nat) : Reading (List Char) := do
  let (characters, after) ← (← place).takeWhile test count
  setPlace after
  return characters

def takeDecimal : Reading (List Char) := do
  takeWhile Char.isDigit ((← place).rest.length)

def takeName (terminator : Char) (what : String) : Reading String := do
  let (name, after) ← (← place).takeName terminator what
  setPlace after
  return name

end Reading

open Reading

def isOctalDigit (character : Char) : Bool := '0' ≤ character && character ≤ '7'
def isHexDigit (character : Char) : Bool := (hexValue? character).isSome

def codeOf (base : Nat) (digits : List Char) : Nat :=
  ofDigitValues base (digits.map fun digit => (hexValue? digit).getD 0)

def letterEscape? (character : Char) : Option Nat :=
  match character with
  | 'a' => some 7
  | 'b' => some 8
  | 'f' => some 12
  | 'n' => some 10
  | 'r' => some 13
  | 't' => some 9
  | 'v' => some 11
  | '\\' => some 92
  | _ => none

def classEscape? (character : Char) : Option CharacterClass :=
  match character with
  | 'd' => some .digit
  | 'D' => some .notDigit
  | 's' => some .space
  | 'S' => some .notSpace
  | 'w' => some .word
  | 'W' => some .notWord
  | _ => none

def anchorEscape? (character : Char) : Option Anchor :=
  match character with
  | 'A' => some .textStart
  | 'b' => some .boundary
  | 'B' => some .noBoundary
  | 'Z' => some .textEnd
  | _ => none

def readHexEscape (marker : Char) (count : Nat) : Reading Nat := do
  let digits ← takeWhile isHexDigit count
  let text := String.ofList ('\\' :: marker :: digits)
  if digits.length ≠ count then refuse (.incompleteEscape text) (digits.length + 2)
  let code := codeOf 16 digits
  if 0x7FFFFFFF < code then throw .codeTooLarge
  if 0x10FFFF < code then refuse (.badEscape text) (digits.length + 2)
  return code

def readNamedCharacter : Reading Nat := do
  unless ← takeIf '\x7b' do refuse (.missing "\x7b")
  let name ← takeName '\x7d' "character name"
  match (← scope).characterNamed? name with
  | some code => return code
  | none => refuse (.undefinedCharacterName name) (name.length + 4)

def checkOctal (digits : List Char) : Reading Nat := do
  let code := codeOf 8 digits
  if 0o377 < code then
    refuse (.octalTooLarge (String.ofList ('\\' :: digits))) (digits.length + 1)
  return code

def readCommonEscape? (character : Char) : Reading (Option Nat) := do
  match character with
  | 'x' => return some (← readHexEscape 'x' 2)
  | 'u' => return some (← readHexEscape 'u' 4)
  | 'U' => return some (← readHexEscape 'U' 8)
  | 'N' => return some (← readNamedCharacter)
  | _ => return none

/-- A backslash before a character without a meaning of its own stands for that character, unless
it is an ASCII letter or digit. -/
def readPlainEscape (character : Char) : Reading Nat := do
  if character.isAlphanum then refuse (.badEscape (String.ofList ['\\', character])) 2
  return character.toNat

def readSetEscape (character : Char) : Reading SetItem := do
  if let some code := letterEscape? character then return .character code
  if let some kind := classEscape? character then return .ofClass kind
  if let some code ← readCommonEscape? character then return .character code
  if isOctalDigit character then
    return .character (← checkOctal (character :: (← takeWhile isOctalDigit 2)))
  return .character (← readPlainEscape character)

def checkLookbehind (number : Nat) : Reading Unit := do
  let scope ← scope
  if let some first := scope.lookbehindGroups then
    if (scope.closedWidth? number).isNone then refuse .openGroupReference
    if first ≤ number then refuse .lookbehindGroupReference

def readReference (number size : Nat) : Reading Node := do
  match (← scope).closedWidth? number with
  | none => refuse .openGroupReference size
  | some width =>
      checkLookbehind number
      return .reference number width

/-- An escape that begins with a digit other than zero: three octal digits are a character, one or
two digits refer to a group. -/
def readNumberEscape (first : Char) : Reading Node := do
  let more ← takeWhile Char.isDigit 1
  let octal ←
    if isOctalDigit first && !more.isEmpty && more.all isOctalDigit then
      takeWhile isOctalDigit 1
    else pure []
  if !octal.isEmpty then
    return .character (← checkOctal (first :: more ++ octal))
  let number := codeOf 10 (first :: more)
  let size := more.length + 2
  if number < (← scope).nextGroup then readReference number size
  else refuse (.invalidReference number) (size - 1)

def readEscape (character : Char) : Reading Node := do
  if let some anchor := anchorEscape? character then return .anchor anchor
  if let some kind := classEscape? character then return .set false [.ofClass kind]
  if let some code := letterEscape? character then return .character code
  if let some code ← readCommonEscape? character then return .character code
  if character == '0' then
    return .character (codeOf 8 (← takeWhile isOctalDigit 2))
  if character.isDigit then return ← readNumberEscape character
  return .character (← readPlainEscape character)

def readSetItem : List Char → Reading SetItem
  | ['\\', character] => readSetEscape character
  | character :: _ => return .character character.toNat
  | [] => return .character 0

def appendNew (items : List SetItem) (item : SetItem) : List SetItem :=
  if items.contains item then items else items ++ [item]

def readRange (first last : List Char) (firstItem lastItem : SetItem) : Reading SetItem := do
  let fault := Fault.badRange (String.ofList first) (String.ofList last)
  let offset := first.length + 1 + last.length
  match firstItem, lastItem with
  | .character firstCode, .character lastCode =>
      if lastCode < firstCode then refuse fault offset
      return .range firstCode lastCode
  | _, _ => refuse fault offset

/-- The items of a set up to its closing bracket. A bracket that would close an empty set is an
item. The rest of the text bounds the steps. -/
def readSetItems (opening : Nat) : (steps : Nat) → (items : List SetItem) → (isFirst : Bool) →
    Reading (List SetItem)
  | 0, items, _ => return items
  | steps + 1, items, isFirst => do
      if (← place).isAtEnd then refuseAt .unterminatedSet opening
      let piece ← takePiece
      if piece == [']'] && !isFirst then return items
      let item ← readSetItem piece
      if ← takeIf '-' then
        if (← place).isAtEnd then refuseAt .unterminatedSet opening
        let last ← takePiece
        if last == [']'] then return appendNew (appendNew items item) (.character 45)
        let lastItem ← readSetItem last
        readSetItems opening steps (appendNew items (← readRange piece last item lastItem)) false
      else readSetItems opening steps (appendNew items item) false

def readSet : Reading Node := do
  let opening := (← position) - 1
  let negated ← takeIf '^'
  let items ← readSetItems opening ((← place).rest.length + 1) [] true
  match negated, items with
  | false, [.character code] => return .character code
  | true, [.character code] => return .exceptCharacter code
  | _, _ => return .set negated items

/-- A part of a sequence. A group that only brackets its body is dissolved into it at the end. -/
inductive Part where
  | plainGroup (nodes : List Node)
  | node (node : Node)

def Part.nodes : Part → List Node
  | .plainGroup nodes => nodes
  | .node single => [single]

def Part.toNode : Part → Node
  | .plainGroup nodes => .ofList nodes
  | .node single => single

structure Bounds where
  least : Nat
  most : Option Nat

def repetitionLimit : Nat := 4294967295

def checkLength (digits : List Char) : Reading Unit := do
  if mostDigits < digits.length then throw (.repetitionTooLong digits.length)

/-- The bounds in braces, or none if the braces do not hold bounds. The opening brace has been
taken; nothing is taken if there are no bounds. -/
def readBraces : Reading (Option Bounds) := do
  let start ← place
  if start.nextIs '\x7d' then return none
  let least ← takeDecimal
  let most ← if ← takeIf ',' then takeDecimal else pure least
  unless ← takeIf '\x7d' do
    setPlace start
    return none
  checkLength least
  let leastNumber := codeOf 10 least
  if repetitionLimit ≤ leastNumber then throw .repetitionTooLarge
  if most.isEmpty then return some ⟨leastNumber, none⟩
  checkLength most
  let mostNumber := codeOf 10 most
  if repetitionLimit ≤ mostNumber then throw .repetitionTooLarge
  if mostNumber < leastNumber then refuseAt .leastAboveMost start.position
  return some ⟨leastNumber, some mostNumber⟩

def readBounds (quantifier : Char) : Reading (Option Bounds) :=
  match quantifier with
  | '?' => return some ⟨0, some 1⟩
  | '*' => return some ⟨0, none⟩
  | '+' => return some ⟨1, none⟩
  | _ => readBraces

def readGreed : Reading Greed := do
  if ← takeIf '?' then return .lazy
  if ← takeIf '+' then return .possessive
  return .greedy

/-- Applies a quantifier, found at `position`, to the last of the parts, which are in reverse. -/
def readRepetition (bounds : Bounds) (position : Nat) (parts : List Part) :
    Reading (List Part) := do
  match parts with
  | [] => refuseAt .nothingToRepeat position
  | .node (.anchor _) :: _ => refuseAt .nothingToRepeat position
  | .node (.repeated _ _ _ _) :: _ => refuseAt .multipleRepeat position
  | part :: rest =>
      let greed ← readGreed
      return .node (.repeated bounds.least bounds.most greed part.toNode) :: rest

inductive FlagLetter where
  | locale
  | flag (flags : Flags)

def flagLetter? (piece : List Char) : Option FlagLetter :=
  match piece with
  | ['i'] => some (.flag { ignoreCase := true })
  | ['L'] => some .locale
  | ['m'] => some (.flag { multiLine := true })
  | ['s'] => some (.flag { dotAll := true })
  | ['x'] => some (.flag { verbose := true })
  | ['a'] => some (.flag { ascii := true })
  | ['t'] => some (.flag { template := true })
  | ['u'] => some (.flag { unicode := true })
  | _ => none

def isLetterPiece : List Char → Bool
  | [character] => isLetter character
  | _ => false

def refuseFlag {α : Type} (piece : List Char) (otherwise : String) : Reading α :=
  refuse (if isLetterPiece piece then .unknownFlag else .missing otherwise) piece.length

def takeRequired (fault : Fault) : Reading (List Char) := do
  if (← place).isAtEnd then refuse fault
  takePiece

def readFlagsOn : (steps : Nat) → (flags : Flags) → (letter : FlagLetter) →
    Reading (Flags × List Char)
  | 0, flags, _ => return (flags, [])
  | steps + 1, flags, letter => do
      match letter with
      | .locale => refuse .localeFlag
      | .flag added =>
          let flags := flags.union added
          if (added.ascii || added.unicode) && flags.ascii && flags.unicode then
            refuse .incompatibleFlags
          let piece ← takeRequired (.missing "-, : or )")
          if piece == [')'] || piece == ['-'] || piece == [':'] then return (flags, piece)
          match flagLetter? piece with
          | some letter => readFlagsOn steps flags letter
          | none => refuseFlag piece "-, : or )"

def readFlagsOff : (steps : Nat) → (flags : Flags) → (letter : FlagLetter) → Reading Flags
  | 0, flags, _ => return flags
  | steps + 1, flags, letter => do
      match letter with
      | .locale => refuse .kindFlagOff
      | .flag removed =>
          if removed.ascii || removed.unicode then refuse .kindFlagOff
          let flags := flags.union removed
          let piece ← takeRequired (.missing ":")
          if piece == [':'] then return flags
          match flagLetter? piece with
          | some letter => readFlagsOff steps flags letter
          | none => refuseFlag piece ":"

/-- The flags of a group that begins with the given piece: those turned on and those turned off,
or `none` if they hold for the whole pattern. -/
def readFlags (piece : List Char) : Reading (Option (Flags × Flags)) := do
  let steps := (← place).rest.length + 1
  let (add, ending) ←
    match flagLetter? piece with
    | some letter => readFlagsOn steps {} letter
    | none => pure ({}, piece)
  if ending == [')'] then
    changeScope fun scope => { scope with flags := scope.flags.union add }
    return none
  if add.template then refuse .globalFlagOn 1
  let remove ←
    if ending == ['-'] then do
      let piece ← takeRequired (.missing "flag")
      match flagLetter? piece with
      | some letter => readFlagsOff steps {} letter
      | none => refuseFlag piece "flag"
    else pure {}
  if remove.template then refuse .globalFlagOff 1
  if add.meets remove then refuse .flagOnAndOff 1
  return some (add, remove)

def skipComment (opening : Nat) : (steps : Nat) → Reading Unit
  | 0 => return
  | steps + 1 => do
      if (← place).isAtEnd then refuseAt (.missing "), unterminated comment") opening
      if (← takePiece) != [')'] then skipComment opening steps

def skipLine : (steps : Nat) → Reading Unit
  | 0 => return
  | steps + 1 => do
      if (← place).isAtEnd then return
      if (← takePiece) != ['\n'] then skipLine steps

def checkGroupName (name : String) : Reading Unit := do
  unless isIdentifier name.toList do refuse (.badGroupName name) (name.length + 1)

def readNamedReference : Reading Node := do
  let name ← takeName ')' "group name"
  checkGroupName name
  match (← scope).groupNames.lookup name with
  | none => refuse (.unknownGroupName name) (name.length + 1)
  | some number => readReference number (name.length + 1)

def groupLimit : Nat := 1073741823

def readCondition : Reading Nat := do
  let name ← takeName ')' "group name"
  let offset := name.length + 1
  if isIdentifier name.toList then
    match (← scope).groupNames.lookup name with
    | none => refuse (.unknownGroupName name) offset
    | some number => return number
  else
    match readInteger? name with
    | some (.ofNat 0) => refuse .badGroupNumber offset
    | some (.ofNat number) =>
        if groupLimit ≤ number then refuse (.invalidReference number) offset
        let place := (← position) - offset
        changeScope fun scope =>
          if scope.conditions.any (·.1 == number) then scope
          else { scope with conditions := scope.conditions ++ [(number, place)] }
        return number
    | _ => refuse (.badGroupName name) offset

def openGroup (name : Option String) : Reading Nat := do
  let scope ← scope
  let number := scope.nextGroup
  if let some name := name then
    if let some earlier := scope.groupNames.lookup name then
      refuse (.groupNameTaken name number earlier) (name.length + 1)
    changeScope fun scope => { scope with groupNames := (name, number) :: scope.groupNames }
  changeScope fun scope => { scope with groupWidths := scope.groupWidths ++ [none] }
  return number

def closeGroup (number : Nat) (width : Width) : Reading Unit :=
  changeScope fun scope =>
    { scope with groupWidths := scope.groupWidths.set (number - 1) (some width) }

def closeParenthesis (opening : Nat) : Reading Unit := do
  unless ← takeIf ')' do refuseAt (.missing "), unterminated subpattern") opening

def sharedLeaf? : List (List Node) → Option Node
  | [] => none
  | [] :: _ => none
  | (node :: _) :: rest =>
      if rest.all fun branch => (branch.head?.map (node.isSameLeaf ·)).getD false then
        if node.isSameLeaf node then some node else none
      else none

/-- Moves leaves that all branches begin with in front of the choice; the length of a branch bounds
the steps. -/
def splitShared : (steps : Nat) → List (List Node) → List Node × List (List Node)
  | 0, branches => ([], branches)
  | steps + 1, branches =>
      match sharedLeaf? branches with
      | some node =>
          let (shared, rest) := splitShared steps (branches.map (·.drop 1))
          (node :: shared, rest)
      | none => ([], branches)

def branchItems? : List Node → Option (List SetItem)
  | [.character code] => some [.character code]
  | [.set false items] => some items
  | _ => none

def joinBranches (branches : List (List Node)) : List Node :=
  match branches with
  | [branch] => branch
  | _ =>
      let steps := (branches.head?.map List.length).getD 0
      let (shared, rest) := splitShared steps branches
      match rest.mapM branchItems? with
      | some items => shared ++ [.set false (items.flatten.foldl appendNew [])]
      | none => shared ++ [.ofBranches (rest.map Node.ofList)]

inductive Opening where
  | body (name : Option String) (captures isAtomic : Bool) (add remove : Flags)
  | look (behind negated : Bool)
  | condition
  | reference (node : Node)
  | comment
  | globalFlags

def readNamedOpening : Reading Opening := do
  if ← takeIf '<' then
    let name ← takeName '>' "group name"
    checkGroupName name
    return .body (some name) true false {} {}
  if ← takeIf '=' then return .reference (← readNamedReference)
  let piece ← takeRequired .unexpectedEnd
  refuse (.unknownExtension (String.ofList ('P' :: piece))) (piece.length + 2)

def readLookbehindOpening : Reading Opening := do
  let piece ← takeRequired .unexpectedEnd
  if piece == ['='] then return .look true false
  if piece == ['!'] then return .look true true
  refuse (.unknownExtension (String.ofList ('<' :: piece))) (piece.length + 2)

def readOpening (opening : Nat) : Reading Opening := do
  unless ← takeIf '?' do return .body none true false {} {}
  let piece ← takeRequired .unexpectedEnd
  match piece with
  | ['P'] => readNamedOpening
  | [':'] => return .body none false false {} {}
  | ['#'] =>
      skipComment opening ((← place).rest.length + 1)
      return .comment
  | ['='] => return .look false false
  | ['!'] => return .look false true
  | ['<'] => readLookbehindOpening
  | ['('] => return .condition
  | ['>'] => return .body none false true {} {}
  | _ =>
      if (flagLetter? piece).isSome || piece == ['-'] then
        match ← readFlags piece with
        | some (add, remove) => return .body none false false add remove
        | none => return .globalFlags
      else refuse (.unknownExtension (String.ofList piece)) (piece.length + 1)

def isVerboseBlank (piece : List Char) : Bool :=
  match piece with
  | [character] =>
      character == ' ' || character == '\t' || character == '\n' || character == '\r' ||
        character == '\x0B' || character == '\x0C'
  | _ => false

structure Standing where
  isOutermost : Bool
  isFirst : Bool

mutual

/-- The branches of a choice. Each step takes a piece or enters a part, so that twice the length of
the text bounds the steps. -/
def readBranches : (steps : Nat) → (verbose : Bool) → Standing → Reading (List (List Node))
  | 0, _, _ => return []
  | steps + 1, verbose, standing => do
      let branch ← readSequence steps verbose standing []
      if ← takeIf '|' then
        let scope ← scope
        let verbose := if standing.isOutermost then scope.flags.verbose else verbose
        let rest ← readBranches steps verbose { standing with isFirst := false }
        return branch :: rest
      else return [branch]

def readSequence : (steps : Nat) → (verbose : Bool) → Standing → List Part →
    Reading (List Node)
  | 0, _, _, parts => return (parts.reverse.flatMap Part.nodes)
  | steps + 1, verbose, standing, parts => do
      let place ← place
      if place.isAtEnd || place.nextIs '|' || place.nextIs ')' then
        return (parts.reverse.flatMap Part.nodes)
      let piece ← takePiece
      let continueWith (parts : List Part) := readSequence steps verbose standing parts
      if verbose && isVerboseBlank piece then continueWith parts
      else if verbose && piece == ['#'] then
        skipLine (place.rest.length + 1)
        continueWith parts
      else
        match piece with
        | [character] =>
            if character == '[' then continueWith (.node (← readSet) :: parts)
            else if character == '.' then continueWith (.node .anyCharacter :: parts)
            else if character == '^' then continueWith (.node (.anchor .lineStart) :: parts)
            else if character == '$' then continueWith (.node (.anchor .lineEnd) :: parts)
            else if character == '(' then
              match ← readOpening place.position with
              | .comment => continueWith parts
              | .globalFlags => do
                  if !standing.isFirst || !parts.isEmpty then
                    refuseAt .lateGlobalFlags place.position
                  let scope ← scope
                  readSequence steps scope.flags.verbose standing parts
              | .reference node => continueWith (.node node :: parts)
              | .look behind negated =>
                  let node ← readLook steps verbose place.position behind negated
                  continueWith (.node node :: parts)
              | .condition =>
                  let node ← readConditional steps verbose place.position
                  continueWith (.node node :: parts)
              | .body name captures isAtomic add remove =>
                  let number ← if captures then some <$> openGroup name else pure none
                  let inner := (verbose || add.verbose) && !remove.verbose
                  let body := joinBranches (← readBranches steps inner ⟨false, false⟩)
                  closeParenthesis place.position
                  let node := Node.ofList body
                  if let some number := number then closeGroup number node.width
                  let part :=
                    if isAtomic then Part.node (.atomic node)
                    else if number.isNone && add == {} && remove == {} then .plainGroup body
                    else .node (.group number add remove node)
                  continueWith (part :: parts)
            else if ['*', '+', '?', '\x7b'].contains character then
              match ← readBounds character with
              | some bounds => continueWith (← readRepetition bounds place.position parts)
              | none => continueWith (.node (.character character.toNat) :: parts)
            else continueWith (.node (.character character.toNat) :: parts)
        | ['\\', character] => continueWith (.node (← readEscape character) :: parts)
        | _ => continueWith parts

def readLook : (steps : Nat) → (verbose : Bool) → (opening : Nat) → (behind negated : Bool) →
    Reading Node
  | 0, _, _, _, _ => return .empty
  | steps + 1, verbose, opening, behind, negated => do
      let outer := (← scope).lookbehindGroups
      if behind && outer.isNone then
        changeScope fun scope => { scope with lookbehindGroups := some scope.nextGroup }
      let body := joinBranches (← readBranches steps verbose ⟨false, false⟩)
      if behind && outer.isNone then
        changeScope fun scope => { scope with lookbehindGroups := none }
      closeParenthesis opening
      return .look behind negated (.ofList body)

def readConditional : (steps : Nat) → (verbose : Bool) → (opening : Nat) → Reading Node
  | 0, _, _ => return .empty
  | steps + 1, verbose, opening => do
      let number ← readCondition
      checkLookbehind number
      let yes ← readSequence steps verbose ⟨false, false⟩ []
      let no ←
        if ← takeIf '|' then do
          let no ← readSequence steps verbose ⟨false, false⟩ []
          if (← place).nextIs '|' then refuse .tooManyBranches
          pure no
        else pure []
      closeParenthesis opening
      return .conditional number (.ofList yes) (.ofList no)

end

/-- Refuses lookbehinds without a fixed width, and repetitions in a template, in the order of the
pattern. -/
def Node.checkUse (template : Bool) : Node → Attempt Unit
  | .group _ _ _ body => body.checkUse template
  | .atomic body => body.checkUse template
  | .look behind _ body => do
      if behind then
        if 4294967295 < body.width.least then throw (.malformed .lookbehindTooFar none)
        if body.width.least ≠ body.width.most then throw (.malformed .lookbehindWidth none)
      body.checkUse template
  | .conditional _ yes no => do
      yes.checkUse template
      no.checkUse template
  | .repeated _ _ greed body => do
      if template then throw (.malformed (.templateRepetition greed) none)
      body.checkUse template
  | .sequence first second => do
      first.checkUse template
      second.checkUse template
  | .choice left right => do
      left.checkUse template
      right.checkUse template
  | _ => return

structure Compiled where
  node : Node
  flags : Flags
  deriving Repr

def readWhole : Reading Compiled := do
  let steps := 2 * (← place).rest.length + 4
  let branches ← readBranches steps false ⟨true, true⟩
  let scope ← scope
  if scope.flags.ascii && scope.flags.unicode then throw .kindsIncompatible
  unless (← place).isAtEnd do refuse .unbalancedParenthesis
  if let some (number, position) := scope.conditions.find? (scope.nextGroup ≤ ·.1) then
    refuseAt (.invalidReference number) position
  let node := Node.ofList (joinBranches branches)
  node.checkUse scope.flags.template
  return ⟨node, { scope.flags with unicode := !scope.flags.ascii }⟩

def Scope.start (platform : Platform) : Scope where
  characterNamed? := platform.characterNamed?
  flags := { ignoreCase := true, multiLine := true }

/-- Reads a pattern. Case is ignored, and `^` and `$` stand for the ends of lines. -/
def compile (platform : Platform) (text : String) : Attempt Compiled := do
  if platform.exhausts (.pattern text) then throw .tooDeep
  let place ← Place.start text.toList
  (·.1) <$> readWhole.run (.start platform, place)

end LedgerRules.Pattern
