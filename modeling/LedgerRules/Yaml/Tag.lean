import LedgerRules.Text.Utf8
import LedgerRules.Yaml.Source

/-!
Tags: what kind of value a node claims to be. A tag is written with a handle that stands for the
beginning of its name, or in full between angle brackets.
-/

namespace LedgerRules.Yaml

open Reading

/-- A tag as it is written. Without a handle the suffix is the whole name. -/
structure WrittenTag where
  handle : Option String
  suffix : String
  deriving DecidableEq, Repr

inductive Tag where
  | null
  | bool
  | integer
  | float
  | binary
  | timestamp
  | orderedMapping
  | pairs
  | set
  | text
  | sequence
  | mapping
  | merge
  | value
  | unknown
  deriving DecidableEq, Repr

namespace Tag

def commonStart : String := "tag:yaml.org,2002:"

def ofName (name : String) : Tag :=
  let known :=
    [("null", Tag.null), ("bool", .bool), ("int", .integer), ("float", .float),
      ("binary", .binary), ("timestamp", .timestamp), ("omap", .orderedMapping),
      ("pairs", .pairs), ("set", .set), ("str", .text), ("seq", .sequence), ("map", .mapping),
      ("merge", .merge), ("value", .value)]
  ((known.find? fun entry => commonStart ++ entry.1 == name).map (·.2)).getD .unknown

end Tag

def isUriCharacter (character : Char) : Bool :=
  isNameCharacter character || ";/?:@&=+$,.!~*'()[]".contains character

def uriEscapes : (steps : Nat) → Reading Bytes
  | 0 => return []
  | steps + 1 => do
      if (← peek) == some '%' then
        forward 1
        let byte ← hexNumber 2 0
        return UInt8.ofNat byte :: (← uriEscapes steps)
      return []

def uriParts : (steps : Nat) → Reading (List Char)
  | 0 => return []
  | steps + 1 => do
      if (← peek) == some '%' then
        match Utf8.decode? (← uriEscapes ((← get).rest.length)) with
        | .ok text => return text.toList ++ (← uriParts steps)
        | .error _ => fail
      let part ← takeWhile isUriCharacter
      if part.isEmpty then return []
      return part ++ (← uriParts steps)

def uri : Reading String := do
  let source ← get
  let characters ← uriParts (source.rest.length + 1)
  if (← get).index == source.index then fail
  return String.ofList characters

def tagHandle : Reading String := do
  if (← peek) != some '!' then fail
  forward 1
  if (← peek) == some ' ' then return "!"
  let name ← takeWhile isNameCharacter
  if (← peek) != some '!' then fail
  forward 1
  return String.ofList ('!' :: name ++ ['!'])

def writtenTag : Reading WrittenTag := do
  let tag ← match ← peekAt 1 with
    | some '<' => do
        forward 2
        let suffix ← uri
        if (← peek) != some '>' then fail
        forward 1
        pure (⟨none, suffix⟩ : WrittenTag)
    | next =>
        if endsToken next then do
          forward 1
          pure ⟨none, "!"⟩
        else do
          let word := ((← get).rest.drop 1).takeWhile fun character => !endsWord (some character)
          let handle ← if word.contains '!' then tagHandle else do
            forward 1
            pure "!"
          pure ⟨some handle, ← uri⟩
  if !endsWord (← peek) then fail
  return tag

end LedgerRules.Yaml
