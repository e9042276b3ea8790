/-!
The structure of a description pattern: characters, sets, anchors, groups, repetitions and
choices. Characters are given by their code points, since a pattern may name a code point that no
text can hold.
-/

namespace LedgerRules.Pattern

/-- What a pattern pays attention to. `ascii` and `unicode` say which characters count as word
characters, digits and blanks; `template` is accepted but no repetition can be used with it. -/
structure Flags where
  ignoreCase : Bool := false
  multiLine : Bool := false
  dotAll : Bool := false
  verbose : Bool := false
  ascii : Bool := false
  unicode : Bool := false
  template : Bool := false
  deriving DecidableEq, Repr

namespace Flags

def union (left right : Flags) : Flags where
  ignoreCase := left.ignoreCase || right.ignoreCase
  multiLine := left.multiLine || right.multiLine
  dotAll := left.dotAll || right.dotAll
  verbose := left.verbose || right.verbose
  ascii := left.ascii || right.ascii
  unicode := left.unicode || right.unicode
  template := left.template || right.template

def without (left right : Flags) : Flags where
  ignoreCase := left.ignoreCase && !right.ignoreCase
  multiLine := left.multiLine && !right.multiLine
  dotAll := left.dotAll && !right.dotAll
  verbose := left.verbose && !right.verbose
  ascii := left.ascii && !right.ascii
  unicode := left.unicode && !right.unicode
  template := left.template && !right.template

def meets (left right : Flags) : Bool :=
  (left.ignoreCase && right.ignoreCase) || (left.multiLine && right.multiLine) ||
    (left.dotAll && right.dotAll) || (left.verbose && right.verbose) ||
    (left.ascii && right.ascii) || (left.unicode && right.unicode) ||
    (left.template && right.template)

/-- The flags inside a group that adds some and removes others. An added kind of characters
replaces the kind in force. -/
def inGroup (flags add remove : Flags) : Flags :=
  let kept := if add.ascii || add.unicode then { flags with ascii := false, unicode := false }
    else flags
  (kept.union add).without remove

end Flags

inductive CharacterClass where
  | digit
  | notDigit
  | space
  | notSpace
  | word
  | notWord
  deriving DecidableEq, Repr

inductive SetItem where
  | character (code : Nat)
  | range (first last : Nat)
  | ofClass (kind : CharacterClass)
  deriving DecidableEq, Repr

inductive Anchor where
  | textStart
  | textEnd
  | lineStart
  | lineEnd
  | boundary
  | noBoundary
  deriving DecidableEq, Repr

inductive Greed where
  | greedy
  | lazy
  | possessive
  deriving DecidableEq, Repr

structure Width where
  least : Nat
  most : Nat
  deriving DecidableEq, Repr

inductive Node where
  | empty
  | character (code : Nat)
  | exceptCharacter (code : Nat)
  | anyCharacter
  | set (negated : Bool) (items : List SetItem)
  | anchor (kind : Anchor)
  | reference (group : Nat) (width : Width)
  | group (number : Option Nat) (add remove : Flags) (body : Node)
  /-- Matches as its body does, but gives back nothing once it has matched. -/
  | atomic (body : Node)
  | look (behind negated : Bool) (body : Node)
  | conditional (group : Nat) (yes no : Node)
  | repeated (least : Nat) (most : Option Nat) (greed : Greed) (body : Node)
  | sequence (first second : Node)
  | choice (left right : Node)
  deriving Repr

namespace Node

def ofList : List Node → Node
  | [] => .empty
  | [node] => node
  | node :: rest => .sequence node (ofList rest)

def ofBranches : List Node → Node
  | [] => .empty
  | [node] => node
  | node :: rest => .choice node (ofBranches rest)

def widthLimit : Nat := Nat.pow 2 64

def capped (least most : Nat) : Width := ⟨min least widthLimit, min most widthLimit⟩

def width : Node → Width
  | .empty | .anchor _ | .look _ _ _ => ⟨0, 0⟩
  | .character _ | .exceptCharacter _ | .anyCharacter | .set _ _ => ⟨1, 1⟩
  | .reference _ width => width
  | .group _ _ _ body => body.width
  | .atomic body => body.width
  | .conditional _ yes no =>
      ⟨min yes.width.least no.width.least, max yes.width.most no.width.most⟩
  | .repeated least most _ body =>
      match most with
      | some most => capped (body.width.least * least) (body.width.most * most)
      | none =>
          capped (body.width.least * least) (if body.width.most = 0 then 0 else widthLimit)
  | .sequence first second =>
      capped (first.width.least + second.width.least) (first.width.most + second.width.most)
  | .choice left right =>
      ⟨min left.width.least right.width.least, max left.width.most right.width.most⟩

def isSameLeaf : Node → Node → Bool
  | .character left, .character right => left == right
  | .exceptCharacter left, .exceptCharacter right => left == right
  | .anyCharacter, .anyCharacter => true
  | .set negated items, .set otherNegated otherItems =>
      negated == otherNegated && items == otherItems
  | .anchor left, .anchor right => left == right
  | .reference left _, .reference right _ => left == right
  | _, _ => false

end Node

end LedgerRules.Pattern
