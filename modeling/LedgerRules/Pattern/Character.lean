import LedgerRules.Pattern.Node
import LedgerRules.Text.Blank
import LedgerRules.Text.Case
import LedgerRules.Text.Digit
import LedgerRules.Text.Letter

/-!
Which characters the leaves of a pattern accept. Where case is ignored, a character is compared by
its lower case and by the other lower case characters with the same upper case. Sets compare the
same way, except that a single character beyond the basic plane is compared as it stands.
-/

namespace LedgerRules.Pattern

open Text

def lastBasicCode : Nat := 0xFFFF

def lowerUnder (flags : Flags) (code : Nat) : Nat :=
  if flags.unicode then lowerCode code else asciiLowerCode code

def isCasedUnder (flags : Flags) (code : Nat) : Bool :=
  if flags.unicode then isCased code else isAsciiLetterCode code

def sharingUnder (flags : Flags) (lower : Nat) : List Nat :=
  if flags.unicode then sharingUpperCase lower else []

def isWordCode (flags : Flags) (code : Nat) : Bool :=
  if flags.unicode then isWordCharacter (Char.ofNat code)
  else code < 128 && isWordCharacter (Char.ofNat code)

def isDigitCode (flags : Flags) (code : Nat) : Bool :=
  if flags.unicode then isDigit (Char.ofNat code) else 48 ≤ code && code ≤ 57

def isSpaceCode (flags : Flags) (code : Nat) : Bool :=
  if flags.unicode then isBlank (Char.ofNat code) else code == 32 || (9 ≤ code && code ≤ 13)

def CharacterClass.holds (flags : Flags) (code : Nat) : CharacterClass → Bool
  | .digit => isDigitCode flags code
  | .notDigit => !isDigitCode flags code
  | .space => isSpaceCode flags code
  | .notSpace => !isSpaceCode flags code
  | .word => isWordCode flags code
  | .notWord => !isWordCode flags code

def acceptsCharacter (flags : Flags) (wanted code : Nat) : Bool :=
  if flags.ignoreCase && isCasedUnder flags wanted then
    let lower := lowerUnder flags wanted
    let probe := lowerUnder flags code
    probe == lower || (sharingUnder flags lower).contains probe
  else code == wanted

namespace SetItem

def holds (flags : Flags) (code : Nat) : SetItem → Bool
  | .character wanted => code == wanted
  | .range first last => first ≤ code && code ≤ last
  | .ofClass kind => kind.holds flags code

def runMeets (first last : Nat) (entry : Nat × Nat × Nat × Nat) : Bool :=
  let run := CaseRun.ofEntry entry
  let steps := (first - run.first + run.step - 1) / run.step
  let candidate := run.first + steps * run.step
  candidate ≤ run.last && candidate ≤ last

def rangeHasCase (flags : Flags) (first last : Nat) : Bool :=
  if flags.unicode then
    lowerRuns.any (runMeets first last) || upperRuns.any (runMeets first last)
  else (first ≤ 90 && 65 ≤ last) || (first ≤ 122 && 97 ≤ last)

def hasCase (flags : Flags) : SetItem → Bool
  | .character wanted => isCasedUnder flags wanted || lastBasicCode < lowerUnder flags wanted
  | .range first last => lastBasicCode < last || rangeHasCase flags first last
  | .ofClass _ => false

/-- Whether the lower case of some code point of a range, or a character sharing its upper case,
is the given one. -/
def rangeHasLower (flags : Flags) (first last probe : Nat) : Bool :=
  let inRange (code : Nat) : Bool := first ≤ code && code ≤ last
  if flags.unicode then
    (probe :: sharingUpperCase probe).any fun target => (withLowerCase target).any inRange
  else
    (inRange probe && asciiLowerCode probe == probe) ||
      (97 ≤ probe && probe ≤ 122 && inRange (probe - 32))

def holdsFolded (flags : Flags) (probe : Nat) : SetItem → Bool
  | .character wanted =>
      let lower := lowerUnder flags wanted
      if lower ≤ lastBasicCode then
        probe == lower || (sharingUnder flags lower).contains probe
      else probe == wanted
  | .range first last =>
      rangeHasLower flags first (min last lastBasicCode) probe ||
        (lastBasicCode < last &&
          ((first ≤ probe && probe ≤ last) ||
            (first ≤ upperCode probe && upperCode probe ≤ last)))
  | .ofClass kind => kind.holds flags probe

end SetItem

def acceptsItems (flags : Flags) (items : List SetItem) (code : Nat) : Bool :=
  if flags.ignoreCase then
    let probe := if items.any (·.hasCase flags) then lowerUnder flags code else code
    items.any (·.holdsFolded flags probe)
  else items.any (·.holds flags code)

end LedgerRules.Pattern
