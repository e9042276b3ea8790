import LedgerRules.Yaml.Plain
import LedgerRules.Yaml.Token

/-!
Nodes: the structure of a YAML document, where every node has a tag and names have been replaced by
what they stand for. A text holds at most one document.
-/

namespace LedgerRules.Yaml

inductive Node where
  | scalar (tag : Tag) (text : String)
  | sequence (tag : Tag) (items : List Node)
  | mapping (tag : Tag) (entries : List (Node × Node))

abbrev Anchors := List (String × Option Node)

structure Composer where
  tokens : List Token
  fault : Option Fault
  anchors : Anchors := []
  handles : List (String × String)

abbrev Composing := StateT Composer (Except Fault)

namespace Composing

def fail {α : Type} : Composing α := throw .malformed

/-- The next token; where the tokens end early, the fault that ended them. -/
def peek : Composing Token := do
  let composer ← get
  match composer.tokens with
  | token :: _ => return token
  | [] => throw (composer.fault.getD .malformed)

def drop : Composing Unit :=
  modify fun composer => { composer with tokens := composer.tokens.drop 1 }

def take (token : Token) : Composing Bool := do
  if (← peek) == token then
    drop
    return true
  return false

def isNext (tokens : List Token) : Composing Bool := return tokens.contains (← peek)

def expect (token : Token) : Composing Unit := do
  if !(← take token) then fail

def anchor? : Composing (Option String) := do
  match ← peek with
  | .anchor name =>
      drop
      return some name
  | _ => return none

def tag? : Composing (Option WrittenTag) := do
  match ← peek with
  | .tag tag =>
      drop
      return some tag
  | _ => return none

def tagName (tag : WrittenTag) : Composing String := do
  match tag.handle with
  | none => return tag.suffix
  | some handle =>
      match (← get).handles.lookup handle with
      | some start => return start ++ tag.suffix
      | none => fail

/-- The tag of a scalar. One that is not plain is text unless a tag says otherwise. -/
def scalarTag (name : Option String) (text : String) (isPlain : Bool) : Tag :=
  match name with
  | none => if isPlain then Plain.tag text else .text
  | some name => if name == "!" then Plain.tag text else Tag.ofName name

def collectionTag (name : Option String) (standard : Tag) : Tag :=
  match name with
  | none => standard
  | some name => if name == "!" then standard else Tag.ofName name

def emptyScalar : Node := .scalar .null ""

/-- Opens a name. A name must not be given twice. -/
def openAnchor (name : Option String) : Composing Unit := do
  if let some name := name then
    if ((← get).anchors.lookup name).isSome then fail
    modify fun composer => { composer with anchors := (name, none) :: composer.anchors }

def closeAnchor (name : Option String) (node : Node) : Composing Node := do
  if let some name := name then
    modify fun composer => { composer with anchors := (name, some node) :: composer.anchors }
  return node

def aliased (name : String) : Composing Node := do
  match (← get).anchors.lookup name with
  | some (some node) => return node
  | _ => fail

/-- Where a node stands: inside a flow collection, in a block, or in a block where the entries of a
sequence need not be indented. -/
inductive Place where
  | flow
  | block
  | looseBlock
  deriving DecidableEq, Repr

mutual

/-- Reads a node. At least one in six steps takes a token, so that the tokens bound the steps. -/
def node (place : Place) : (steps : Nat) → Composing Node
  | 0 => fail
  | steps + 1 => do
      match ← peek with
      | .alias name =>
          drop
          aliased name
      | _ =>
          let early ← anchor?
          let written ← tag?
          let late ← if early.isNone && written.isSome then anchor? else pure none
          let anchor := early <|> late
          let name ← written.mapM tagName
          content place anchor name steps

def content (place : Place) (anchor : Option String) (name : Option String) :
    (steps : Nat) → Composing Node
  | 0 => fail
  | steps + 1 => do
      openAnchor anchor
      let token ← peek
      match token with
      | .scalar text isPlain =>
          drop
          closeAnchor anchor (.scalar (scalarTag name text isPlain) text)
      | .flowSequenceStart =>
          drop
          closeAnchor anchor
            (.sequence (collectionTag name .sequence) (← flowItems true steps))
      | .flowMappingStart =>
          drop
          closeAnchor anchor (.mapping (collectionTag name .mapping) (← flowEntries true steps))
      | _ =>
          if place = .looseBlock ∧ token = .blockEntry then
            closeAnchor anchor (.sequence (collectionTag name .sequence) (← looseItems steps))
          else if place ≠ .flow ∧ token = .blockSequenceStart then do
            drop
            closeAnchor anchor (.sequence (collectionTag name .sequence) (← blockItems steps))
          else if place ≠ .flow ∧ token = .blockMappingStart then do
            drop
            closeAnchor anchor (.mapping (collectionTag name .mapping) (← blockEntries steps))
          else if anchor.isSome || name.isSome then
            closeAnchor anchor (.scalar (scalarTag name "" true) "")
          else fail

def nodeUnless (ends : List Token) (place : Place) : (steps : Nat) → Composing Node
  | 0 => fail
  | steps + 1 => do
      if ← isNext ends then return emptyScalar
      node place steps

def blockItems : (steps : Nat) → Composing (List Node)
  | 0 => fail
  | steps + 1 => do
      if ← take .blockEntry then
        let item ← nodeUnless [.blockEntry, .blockEnd] .block steps
        return item :: (← blockItems steps)
      expect .blockEnd
      return []

def looseItems : (steps : Nat) → Composing (List Node)
  | 0 => fail
  | steps + 1 => do
      if ← take .blockEntry then
        let item ← nodeUnless [.blockEntry, .key, .value, .blockEnd] .block steps
        return item :: (← looseItems steps)
      return []

def blockEntries : (steps : Nat) → Composing (List (Node × Node))
  | 0 => fail
  | steps + 1 => do
      if ← take .key then
        let ends := [Token.key, .value, .blockEnd]
        let key ← nodeUnless ends .looseBlock steps
        let value ←
          if ← take .value then nodeUnless ends .looseBlock steps else pure emptyScalar
        return (key, value) :: (← blockEntries steps)
      expect .blockEnd
      return []

def flowValue (ends : List Token) : (steps : Nat) → Composing Node
  | 0 => fail
  | steps + 1 => do
      if ← take .value then nodeUnless ends .flow steps else return emptyScalar

/-- An item of a flow sequence; a key without braces makes a mapping of one entry. -/
def flowItem : (steps : Nat) → Composing Node
  | 0 => fail
  | steps + 1 => do
      if ← take .key then
        let key ← nodeUnless [.value, .flowEntry, .flowSequenceEnd] .flow steps
        let value ← flowValue [.flowEntry, .flowSequenceEnd] steps
        return .mapping .mapping [(key, value)]
      node .flow steps

def flowItems (isFirst : Bool) : (steps : Nat) → Composing (List Node)
  | 0 => fail
  | steps + 1 => do
      if ← take .flowSequenceEnd then return []
      if !isFirst then expect .flowEntry
      if ← take .flowSequenceEnd then return []
      let item ← flowItem steps
      return item :: (← flowItems false steps)

def flowEntry : (steps : Nat) → Composing (Node × Node)
  | 0 => fail
  | steps + 1 => do
      if ← take .key then
        let key ← nodeUnless [.value, .flowEntry, .flowMappingEnd] .flow steps
        let value ← flowValue [.flowEntry, .flowMappingEnd] steps
        return (key, value)
      return (← node .flow steps, emptyScalar)

def flowEntries (isFirst : Bool) : (steps : Nat) → Composing (List (Node × Node))
  | 0 => fail
  | steps + 1 => do
      if ← take .flowMappingEnd then return []
      if !isFirst then expect .flowEntry
      if ← take .flowMappingEnd then return []
      let entry ← flowEntry steps
      return entry :: (← flowEntries false steps)

end

def standardHandles : List (String × String) := [("!", "!"), ("!!", Tag.commonStart)]

/-- Reads the directives of a document. A version is given at most once and has to begin with one;
a handle is given at most once. -/
def directives : (steps : Nat) → (hasVersion : Bool) → (handles : List (String × String)) →
    Composing (List (String × String))
  | 0, _, handles => return handles
  | steps + 1, hasVersion, handles => do
      match ← peek with
      | .directive (.version major) =>
          drop
          if hasVersion || major != 1 then fail
          directives steps true handles
      | .directive (.tagHandle handle expansion) =>
          drop
          if (handles.lookup handle).isSome then fail
          directives steps hasVersion ((handle, expansion) :: handles)
      | .directive .other =>
          drop
          directives steps hasVersion handles
      | _ => return handles

def dropDocumentEnds : (steps : Nat) → Composing Unit
  | 0 => return
  | steps + 1 => do
      if ← take .documentEnd then dropDocumentEnds steps

def atDocumentEdge : Composing Bool := do
  match ← peek with
  | .directive _ => return true
  | .documentStart => return true
  | .documentEnd => return true
  | .streamEnd => return true
  | _ => return false

def explicitDocument (steps : Nat) : Composing Node := do
  let handles ← directives steps false []
  modify fun composer => { composer with handles := handles ++ standardHandles }
  expect .documentStart
  if ← atDocumentEdge then return emptyScalar
  node .block steps

def document (steps : Nat) : Composing (Option Node) := do
  let result ←
    match ← peek with
    | .streamEnd => pure none
    | .documentStart => some <$> explicitDocument steps
    | .directive _ => some <$> explicitDocument steps
    | _ => some <$> node .block steps
  dropDocumentEnds steps
  expect .streamEnd
  return result

end Composing

def Node.ofCharacters (characters : List Char) : Except Fault (Option Node) := do
  if !characters.all isAllowed then throw .malformed
  let tokens := Tokens.ofCharacters characters
  let composer : Composer :=
    { tokens := tokens.tokens, fault := tokens.fault, handles := Composing.standardHandles }
  let steps := 6 * (tokens.tokens.length + 2)
  return (← (Composing.document steps).run composer).1

end LedgerRules.Yaml
