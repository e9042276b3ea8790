import LedgerRules.Pattern.Character
import LedgerRules.Pattern.Reader

/-!
Looking for a pattern in a text. Alternatives are tried in order and taken back when what follows
them fails; `matchNode` is given what has to follow as a continuation. A repetition ends when one
more round has matched nothing, so that the length of the text bounds its rounds.
-/

namespace LedgerRules.Pattern

structure Progress where
  position : Nat
  starts : List (Nat × Nat) := []
  ends : List (Nat × Nat) := []

abbrev Continuation := Progress → Option Progress

def Progress.span? (progress : Progress) (group : Nat) : Option (Nat × Nat) :=
  match progress.starts.lookup group, progress.ends.lookup group with
  | some first, some last => if first ≤ last then some (first, last) else none
  | _, _ => none

def isWordAt (text : Array Nat) (flags : Flags) (index : Nat) : Bool :=
  (text[index]?.map (isWordCode flags)).getD false

def isBoundary (text : Array Nat) (flags : Flags) (position : Nat) : Bool :=
  let before := 0 < position && isWordAt text flags (position - 1)
  before != isWordAt text flags position

/-- Whether an anchor holds at a position. In an empty text there is neither a boundary nor a place
without one. -/
def anchorHolds (text : Array Nat) (flags : Flags) (position : Nat) : Anchor → Bool
  | .textStart => position == 0
  | .textEnd => position == text.size
  | .lineStart => position == 0 || (flags.multiLine && text[position - 1]? == some 10)
  | .lineEnd =>
      position == text.size ||
        (text[position]? == some 10 && (flags.multiLine || position + 1 == text.size))
  | .boundary => !text.isEmpty && isBoundary text flags position
  | .noBoundary => !text.isEmpty && !isBoundary text flags position

def matchOne (text : Array Nat) (test : Nat → Bool) (progress : Progress)
    (follow : Continuation) : Option Progress :=
  match text[progress.position]? with
  | some code =>
      if test code then follow { progress with position := progress.position + 1 } else none
  | none => none

def sameStretch (text : Array Nat) (flags : Flags) : (length first second : Nat) → Bool
  | 0, _, _ => true
  | length + 1, first, second =>
      match text[first]?, text[second]? with
      | some left, some right =>
          (if flags.ignoreCase then lowerUnder flags left == lowerUnder flags right
            else left == right) && sameStretch text flags length (first + 1) (second + 1)
      | _, _ => false

abbrev Round := Progress → Continuation → Option Progress

/-- As many rounds as possible, fewer if what follows needs it. `last` is where the latest
voluntary round began. -/
def matchGreedy (round : Round) (least : Nat) (most : Option Nat) (follow : Continuation) :
    (steps count : Nat) → (last : Option Nat) → Progress → Option Progress
  | 0, _, _, _ => none
  | steps + 1, count, last, progress =>
      if count < least then
        round progress fun after => matchGreedy round least most follow steps (count + 1) last after
      else if most.all (count < ·) && last != some progress.position then
        let again := round progress fun after =>
          matchGreedy round least most follow steps (count + 1) (some progress.position) after
        match again with
        | some result => some result
        | none => follow progress
      else follow progress

def matchLazy (round : Round) (least : Nat) (most : Option Nat) (follow : Continuation) :
    (steps count : Nat) → (last : Option Nat) → Progress → Option Progress
  | 0, _, _, _ => none
  | steps + 1, count, last, progress =>
      if count < least then
        round progress fun after => matchLazy round least most follow steps (count + 1) last after
      else
        match follow progress with
        | some result => some result
        | none =>
            if most.all (count < ·) && last != some progress.position then
              round progress fun after =>
                matchLazy round least most follow steps (count + 1) (some progress.position) after
            else none

/-- As many rounds as possible, each of them for good. -/
def matchPossessive (round : Round) (least : Nat) (most : Option Nat) :
    (steps count : Nat) → (last : Option Nat) → Progress → Option Progress
  | 0, _, _, _ => none
  | steps + 1, count, last, progress =>
      if count < least then
        (round progress some).bind fun after =>
          matchPossessive round least most steps (count + 1) last after
      else if most.all (count < ·) && last != some progress.position then
        match round progress some with
        | some after =>
            matchPossessive round least most steps (count + 1) (some progress.position) after
        | none => some progress
      else some progress

def matchNode (text : Array Nat) (flags : Flags) : Node → Round
  | .empty, progress, follow => follow progress
  | .character wanted, progress, follow =>
      matchOne text (acceptsCharacter flags wanted) progress follow
  | .exceptCharacter wanted, progress, follow =>
      matchOne text (fun code => !acceptsCharacter flags wanted code) progress follow
  | .anyCharacter, progress, follow =>
      matchOne text (fun code => flags.dotAll || code != 10) progress follow
  | .set negated items, progress, follow =>
      matchOne text (fun code => acceptsItems flags items code != negated) progress follow
  | .anchor kind, progress, follow =>
      if anchorHolds text flags progress.position kind then follow progress else none
  | .reference group _, progress, follow =>
      match progress.span? group with
      | some (first, last) =>
          if sameStretch text flags (last - first) first progress.position then
            follow { progress with position := progress.position + (last - first) }
          else none
      | none => none
  | .group number add remove body, progress, follow =>
      let inner := flags.inGroup add remove
      match number with
      | none => matchNode text inner body progress follow
      | some number =>
          let opened := { progress with starts := (number, progress.position) :: progress.starts }
          matchNode text inner body opened fun after =>
            follow { after with ends := (number, after.position) :: after.ends }
  | .atomic body, progress, follow =>
      (matchNode text flags body progress some).bind follow
  | .look behind negated body, progress, follow =>
      let back := if behind then body.width.least else 0
      let found :=
        if progress.position < back then none
        else matchNode text flags body { progress with position := progress.position - back } some
      match negated, found with
      | false, some after => follow { after with position := progress.position }
      | true, none => follow progress
      | _, _ => none
  | .conditional group yes no, progress, follow =>
      if (progress.span? group).isSome then matchNode text flags yes progress follow
      else matchNode text flags no progress follow
  | .repeated least most greed body, progress, follow =>
      let round := matchNode text flags body
      let steps := least + (text.size - progress.position) + 3
      match greed with
      | .greedy => matchGreedy round least most follow steps 0 none progress
      | .lazy => matchLazy round least most follow steps 0 none progress
      | .possessive => (matchPossessive round least most steps 0 none progress).bind follow
  | .sequence first second, progress, follow =>
      matchNode text flags first progress fun after => matchNode text flags second after follow
  | .choice left right, progress, follow =>
      match matchNode text flags left progress follow with
      | some result => some result
      | none => matchNode text flags right progress follow

def Compiled.foundFrom (pattern : Compiled) (text : Array Nat) : (steps position : Nat) → Bool
  | 0, _ => false
  | steps + 1, position =>
      (matchNode text pattern.flags pattern.node { position := position } some).isSome ||
        pattern.foundFrom text steps (position + 1)

def Compiled.isFoundIn (pattern : Compiled) (text : String) : Bool :=
  let codes := (text.toList.map Char.toNat).toArray
  pattern.foundFrom codes (codes.size + 1) 0

end LedgerRules.Pattern
