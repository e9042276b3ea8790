import LedgerRules.Text.Digit
import LedgerRules.Text.Split

/-!
Numeric addresses, as they may stand in brackets in a URL.
-/

namespace LedgerRules

namespace Host

open Text (splitAt splitOnce)

def isOctet (digits : List Char) : Bool :=
  !digits.isEmpty && digits.length ≤ 3 && digits.all Char.isDigit &&
    (digits.length == 1 || digits.head? != some '0') &&
    Text.ofDigitValues 10 (digits.map fun digit => digit.toNat - 48) ≤ 255

def isFourOctets (characters : List Char) : Bool :=
  let octets := splitAt '.' characters
  octets.length == 4 && octets.all isOctet

def isGroup (digits : List Char) : Bool :=
  !digits.isEmpty && digits.length ≤ 4 && digits.all fun digit => (Text.hexValue? digit).isSome

def plainGroups? (groups : List (List Char)) : Option (List (List Char)) :=
  let last := groups.getLast?.getD []
  if last.contains '.' then
    if isFourOctets last then some (groups.dropLast ++ [['0'], ['0']]) else none
  else some groups

/-- Whether groups on both sides of the one gap leave out at least one of the eight groups. A side
may be empty; it then is a single empty group. -/
def areGapSides (before after : List (List Char)) : Bool :=
  let before := if before == [[]] then [] else before
  let after := if after == [[]] then [] else after
  before.length + after.length < 8 && before.all isGroup && after.all isGroup

def isEightGroups (characters : List Char) : Bool :=
  let parts := splitAt ':' characters
  if parts.length < 3 then false
  else
    match plainGroups? parts with
    | none => false
    | some groups =>
        let inner := (groups.drop 1).dropLast
        if 9 < groups.length || 1 < inner.count [] then false
        else if inner.contains [] then
          let gap := inner.idxOf [] + 1
          areGapSides (groups.take gap) (groups.drop (gap + 1))
        else groups.length == 8 && groups.all isGroup

def isZonedAddress (characters : List Char) : Bool :=
  match splitOnce '%' characters with
  | (address, none) => isEightGroups address
  | (address, some zone) => !zone.isEmpty && !zone.contains '%' && isEightGroups address

def isVersioned (characters : List Char) : Bool :=
  match splitOnce '.' (characters.drop 1) with
  | (version, some rest) =>
      !version.isEmpty && version.all (fun digit => (Text.hexValue? digit).isSome) && !rest.isEmpty
  | _ => false

end Host

end LedgerRules
