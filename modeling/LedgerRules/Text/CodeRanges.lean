/-!
Tables of code point ranges, searched by halving. The character classes of this library are such
tables: they follow version 14.0 of the Unicode character database.
-/

namespace LedgerRules.Text

structure CodeRanges where
  ranges : Array (Nat × Nat)

namespace CodeRanges

/-- Searches the ranges with indices from `lower` up to but not including `upper`. Every step
halves that span, so a step for each range is more than enough. -/
def search (table : CodeRanges) (code : Nat) : (steps lower upper : Nat) → Bool
  | 0, _, _ => false
  | steps + 1, lower, upper =>
      if upper ≤ lower then false
      else
        let middle := (lower + upper) / 2
        match table.ranges[middle]? with
        | none => false
        | some (first, last) =>
            if code < first then search table code steps lower middle
            else if last < code then search table code steps (middle + 1) upper
            else true

def holds (table : CodeRanges) (code : Nat) : Bool :=
  search table code table.ranges.size 0 table.ranges.size

end CodeRanges

end LedgerRules.Text
