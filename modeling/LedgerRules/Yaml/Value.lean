import LedgerRules.Digest.Base64
import LedgerRules.Document.Basic
import LedgerRules.Text.LineBreak
import LedgerRules.Yaml.Node
import LedgerRules.Yaml.Number
import LedgerRules.Yaml.Time

/-!
The document that a YAML text writes. Of several faults the least deep one is reported, and of those
the first.
-/

namespace LedgerRules.Yaml

structure PlacedFault where
  depth : Nat
  fault : Fault

abbrev Valued (α : Type) := Except (List PlacedFault) α

namespace Valued

def faults {α : Type} : Valued α → List PlacedFault
  | .ok _ => []
  | .error faults => faults

def placed {α : Type} (depth : Nat) (result : Except Fault α) : Valued α :=
  result.mapError fun fault => [⟨depth, fault⟩]

def malformed {α : Type} (depth : Nat) : Valued α := .error [⟨depth, .malformed⟩]

def combine {α β γ : Type} (join : α → β → γ) (first : Valued α) (second : Valued β) : Valued γ :=
  match first, second with
  | .ok left, .ok right => .ok (join left right)
  | _, _ => .error (faults first ++ faults second)

end Valued

namespace Node

def tag : Node → Tag
  | .scalar tag _ => tag
  | .sequence tag _ => tag
  | .mapping tag _ => tag

def withTag (tag : Tag) : Node → Node
  | .scalar _ text => .scalar tag text
  | .sequence _ items => .sequence tag items
  | .mapping _ entries => .mapping tag entries

mutual

/-- The text of a scalar; a mapping may give one under the key `=`. -/
def text? : Node → Option String
  | .scalar _ text => some text
  | .sequence _ _ => none
  | .mapping _ entries => entryText? entries

def entryText? : List (Node × Node) → Option String
  | [] => none
  | (key, value) :: rest => if key.tag = .value then text? value else entryText? rest

end

mutual

/-- The entries of a mapping after merging: the entries of merged mappings come first, so that the
mapping's own ones replace them. -/
def mergedEntries? : Node → Option (List (Node × Node))
  | .mapping _ entries => (splitMerges entries).map fun (merged, own) => merged ++ own
  | _ => none

def splitMerges : List (Node × Node) → Option (List (Node × Node) × List (Node × Node))
  | [] => some ([], [])
  | (key, value) :: rest =>
      match splitMerges rest with
      | none => none
      | some (merged, own) =>
          if key.tag = .merge then
            match mergeValue value with
            | some entries => some (entries ++ merged, own)
            | none => none
          else if key.tag = .value then some (merged, (key.withTag .text, value) :: own)
          else some (merged, (key, value) :: own)

/-- The entries that a merge brings: those of a mapping, or of several ones, the first last. -/
def mergeValue : Node → Option (List (Node × Node))
  | .scalar _ _ => none
  | .sequence _ items => mergeItems items
  | .mapping _ entries => (splitMerges entries).map fun (merged, own) => merged ++ own

def mergeItems : List Node → Option (List (Node × Node))
  | [] => some []
  | item :: rest =>
      match mergeItems rest, mergedEntries? item with
      | some later, some entries => some (later ++ entries)
      | _, _ => none

end

def truthValue (text : String) : Except Fault Bool :=
  let lower := Text.lowerCase text
  if ["yes", "true", "on"].contains lower then .ok true
  else if ["no", "false", "off"].contains lower then .ok false
  else .error (.truthValue lower)

def timestamp (text : String) : Except Fault Scalar :=
  match WrittenTime.read? text.toList with
  | none => .error .timeText
  | some written =>
      match written.value with
      | .ok (.inl date) => .ok (.date date)
      | .ok (.inr moment) => .ok (.moment moment)
      | .error fault => .error (.time fault)

def binary (text : String) : Except Fault Scalar :=
  if text.toList.all fun character => character.toNat < 128 then
    match Base64.decode? text.toList with
    | some bytes => .ok (.bytes bytes)
    | none => .error .malformed
  else .error .malformed

def scalarValue (tag : Tag) (text : String) : Except Fault Scalar :=
  match tag with
  | .null => .ok .null
  | .bool => .bool <$> truthValue text
  | .integer => .integer <$> integer text
  | .float => .double <$> float text
  | .binary => binary text
  | .timestamp => timestamp text
  | .text => .ok (.string text)
  | _ => .error .malformed

def keyOf (depth : Nat) (key : Valued Document) : Valued Scalar :=
  match key with
  | .ok (.scalar held) => .ok held
  | .ok _ => Valued.malformed depth
  | .error faults => .error (⟨depth, .malformed⟩ :: faults)

def keysOf (entries : Document.Entries) : List Scalar := entries.map (·.1)

def value : (steps depth : Nat) → Node → Valued Document
  | 0, depth, _ => Valued.malformed depth
  | steps + 1, depth, node =>
      let below := depth + 1
      let itemValues (items : List Node) : Valued (List Document) :=
        items.foldr (fun item rest => Valued.combine (· :: ·) (value steps below item) rest)
          (.ok [])
      let keyValue (key : Node) : Valued Scalar :=
        match key with
        | .scalar tag text => Valued.placed below (scalarValue tag text)
        | _ => keyOf below (value steps below key)
      let entryValues : Valued Document.Entries :=
        match node.mergedEntries? with
        | none => Valued.malformed below
        | some entries =>
            (entries.foldr
              (fun entry rest =>
                let pair := Valued.combine (fun key value => (key, value)) (keyValue entry.1)
                  (value steps below entry.2)
                Valued.combine (· :: ·) pair rest)
              (.ok [])).map fun pairs =>
                pairs.foldl (fun entries pair => Document.Entries.insert entries pair.1 pair.2) []
      let pairValues (items : List Node) : Valued (List Document) :=
        items.foldr
          (fun item rest =>
            match item with
            | .mapping _ [(key, content)] =>
                let pair := Valued.combine (fun key content => .tuple [key, content])
                  (value steps below key) (value steps below content)
                Valued.combine (· :: ·) pair rest
            | _ => Valued.combine (fun (_ : Document) rest => rest) (Valued.malformed below) rest)
          (.ok [])
      match node.tag, node with
      | .sequence, .sequence _ items => (itemValues items).map .list
      | .sequence, _ => Valued.malformed below
      | .mapping, _ => entryValues.map .mapping
      | .set, _ => entryValues.map fun entries => .set (keysOf entries)
      | .orderedMapping, .sequence _ items => (pairValues items).map .list
      | .orderedMapping, _ => Valued.malformed below
      | .pairs, .sequence _ items => (pairValues items).map .list
      | .pairs, _ => Valued.malformed below
      | tag, _ =>
          match node.text? with
          | some text => (Valued.placed depth (scalarValue tag text)).map .scalar
          | none => Valued.malformed depth

end Node

def firstFault : List PlacedFault → Fault
  | [] => .malformed
  | first :: rest =>
      (rest.foldl (fun best next => if next.depth < best.depth then next else best) first).fault

def read (text : String) : Except Fault Document := do
  let characters := (Text.unifyLineBreaks text).toList
  match ← Node.ofCharacters characters with
  | none => return .scalar .null
  | some node => (node.value (characters.length + 2) 0).mapError firstFault

end LedgerRules.Yaml
