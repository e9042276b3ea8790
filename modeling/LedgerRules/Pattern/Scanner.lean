import LedgerRules.Pattern.Fault
import LedgerRules.Text.Digit

/-!
A place in the text of a pattern. The text is taken in pieces: single characters, and backslashes
with the character after them. A backslash at the end of the text is refused as soon as the piece
before it has been taken.
-/

namespace LedgerRules.Pattern

structure Place where
  position : Nat
  rest : List Char

abbrev Attempt := Except Refusal

namespace Place

def fail {α : Type} (place : Place) (fault : Fault) (offset : Nat := 0) : Attempt α :=
  .error (.malformed fault (some (place.position - offset)))

def next (place : Place) : List Char :=
  match place.rest with
  | '\\' :: character :: _ => ['\\', character]
  | character :: _ => [character]
  | [] => []

def isAtEnd (place : Place) : Bool := place.rest.isEmpty

def nextIs (place : Place) (character : Char) : Bool := place.next == [character]

def check (place : Place) : Attempt Place :=
  match place.rest with
  | ['\\'] => place.fail .escapeAtEnd
  | _ => .ok place

def start (pattern : List Char) : Attempt Place := check ⟨0, pattern⟩

def advance (place : Place) : Attempt Place :=
  let size := place.next.length
  check ⟨place.position + size, place.rest.drop size⟩

def take (place : Place) : Attempt (List Char × Place) :=
  place.advance.map fun after => (place.next, after)

def takeIf (place : Place) (character : Char) : Attempt (Option Place) :=
  if place.nextIs character then place.advance.map some else .ok none

def takeWhile (test : Char → Bool) : (count : Nat) → Place → Attempt (List Char × Place)
  | 0, place => .ok ([], place)
  | count + 1, place =>
      match place.next with
      | [character] =>
          if test character then do
            let after ← place.advance
            let (characters, after) ← takeWhile test count after
            .ok (character :: characters, after)
          else .ok ([], place)
      | _ => .ok ([], place)

/-- Takes the pieces up to a terminator, which is taken too. `taken` holds those already read, in
reverse; the rest of the text bounds the steps. -/
def takeNameFrom (terminator : Char) (what : String) :
    (steps : Nat) → (taken : List Char) → Place → Attempt (List Char × Place)
  | 0, _, place => place.fail (.missing what)
  | steps + 1, taken, place => do
      if place.isAtEnd then
        if taken.isEmpty then place.fail (.missing what)
        else place.fail (.unterminatedName (String.singleton terminator)) taken.length
      else
        let (piece, after) ← place.take
        if piece == [terminator] then
          if taken.isEmpty then after.fail (.missing what) 1 else .ok (taken.reverse, after)
        else takeNameFrom terminator what steps (piece.reverse ++ taken) after

def takeName (place : Place) (terminator : Char) (what : String) :
    Attempt (String × Place) :=
  (takeNameFrom terminator what (place.rest.length + 1) [] place).map fun (name, after) =>
    (String.ofList name, after)

end Place

end LedgerRules.Pattern
