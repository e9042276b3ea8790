import LedgerRules.Number.Double

/-!
The fewest decimal digits that read back as the same number. For each digit count the two
neighbours of the value on the decimal grid of that many digits are tried; the first grid with a
neighbour inside the rounding interval of the value wins, and of two such neighbours the nearer.
-/

namespace LedgerRules.Double

structure DecimalDigits where
  digits : Nat
  exponent : Int
  deriving DecidableEq, Repr

def digitCountWithin : (steps value : Nat) → Nat
  | 0, _ => 0
  | steps + 1, value => if value = 0 then 0 else digitCountWithin steps (value / 10) + 1

def digitCount (value : Nat) : Nat := digitCountWithin (value.log2 + 1) value

def leadingExponent (numerator denominator : Nat) : Int :=
  if denominator ≤ numerator then (digitCount (numerator / denominator) : Int) - 1
  else
    let places := digitCount (denominator / numerator)
    if denominator ≤ numerator * Nat.pow 10 (places - 1) then -((places : Int) - 1)
    else -(places : Int)

structure RoundingInterval where
  low : Nat
  value : Nat
  high : Nat
  closed : Bool

def roundingInterval (rank : Nat) : RoundingInterval :=
  let unit := Nat.pow 2 (scale rank)
  let value := 4 * magnitude rank
  let below := if significand rank = binade ∧ 0 < scale rank then unit else 2 * unit
  ⟨value - below, value, value + 2 * unit, significand rank % 2 = 0⟩

/-- The one of two neighbouring grid points that reads back as the value and is the nearer. -/
def chooseGridPoint (interval : RoundingInterval) (factor grid : Nat) : Option Nat :=
  let lower := interval.value * factor / grid
  let inside (point : Nat) : Bool :=
    let scaled := point * grid
    if interval.closed then interval.low * factor ≤ scaled && scaled ≤ interval.high * factor
    else interval.low * factor < scaled && scaled < interval.high * factor
  let toLower := interval.value * factor - lower * grid
  let toUpper := (lower + 1) * grid - interval.value * factor
  match inside lower, inside (lower + 1) with
  | true, true =>
      some (if toLower < toUpper then lower
        else if toUpper < toLower then lower + 1
        else lower + lower % 2)
  | true, false => some lower
  | false, true => some (lower + 1)
  | false, false => none

def DecimalDigits.trimmed : (steps : Nat) → DecimalDigits → DecimalDigits
  | 0, decimal => decimal
  | steps + 1, decimal =>
      if decimal.digits % 10 = 0 ∧ decimal.digits ≠ 0 then
        trimmed steps ⟨decimal.digits / 10, decimal.exponent + 1⟩
      else decimal

/-- Tries `count` digits, then one more, until a grid has a hit. Seventeen digits always have. -/
def shortestFrom (interval : RoundingInterval) (leading : Int) :
    (steps count : Nat) → DecimalDigits
  | 0, _ => ⟨0, 0⟩
  | steps + 1, count =>
      let exponent := leading - count + 1
      let factor := Nat.pow 10 (-exponent).toNat
      let grid := 4 * unitsInOne * Nat.pow 10 exponent.toNat
      match chooseGridPoint interval factor grid with
      | some digits => DecimalDigits.trimmed 20 ⟨digits, exponent⟩
      | none => shortestFrom interval leading steps (count + 1)

def shortest (rank : Nat) : DecimalDigits :=
  if rank = 0 then ⟨0, 0⟩
  else
    let interval := roundingInterval rank
    shortestFrom interval (leadingExponent interval.value (4 * unitsInOne)) 17 1

end LedgerRules.Double
