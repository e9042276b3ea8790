/-!
Binary floating point numbers with 53 significant bits, as exact values. A finite magnitude is
known by its rank in the ascending list of all finite magnitudes, so comparing magnitudes is
comparing natural numbers. Nothing here uses machine arithmetic.
-/

namespace LedgerRules

/-- How many finite magnitudes there are: 2047 exponents of 2 ^ 52 magnitudes each. -/
def finiteMagnitudes : Nat := 9218868437227405312

inductive Double where
  | finite (negative : Bool) (rank : Fin finiteMagnitudes)
  | infinite (negative : Bool)
  | notANumber
  deriving DecidableEq

namespace Double

def binade : Nat := Nat.pow 2 52

def unitsInOne : Nat := Nat.pow 2 1074

/-- The magnitude of a rank is `significand rank * 2 ^ scale rank` units. -/
def significand (rank : Nat) : Nat :=
  if rank < 2 * binade then rank else binade + rank % binade

def scale (rank : Nat) : Nat := rank / binade - 1

def magnitude (rank : Nat) : Nat := significand rank * Nat.pow 2 (scale rank)

def roundQuotient (numerator denominator : Nat) : Nat :=
  let quotient := numerator / denominator
  let remainder := numerator % denominator
  if 2 * remainder < denominator then quotient
  else if denominator < 2 * remainder then quotient + 1
  else quotient + quotient % 2

/-- The rank of the magnitude nearest to a quotient; it can be past the last finite one. -/
def nearestRank (numerator denominator : Nat) : Nat :=
  let units := numerator * unitsInOne
  let shift := (units / denominator).log2 + 1 - 53
  shift * binade + roundQuotient units (denominator * Nat.pow 2 shift)

def ofRank (negative : Bool) (rank : Nat) : Double :=
  if bound : rank < finiteMagnitudes then .finite negative ⟨rank, bound⟩ else .infinite negative

def ofQuotient (negative : Bool) (numerator denominator : Nat) : Double :=
  ofRank negative (nearestRank numerator denominator)

def zero (negative : Bool) : Double := ofRank negative 0

def ofInt (value : Int) : Double := ofQuotient (value < 0) value.natAbs 1

def isNotANumber : Double → Bool
  | .notANumber => true
  | _ => false

def isFinite : Double → Bool
  | .finite _ _ => true
  | _ => false

def absolute : Double → Double
  | .finite _ rank => .finite false rank
  | .infinite _ => .infinite false
  | .notANumber => .notANumber

/-- The place of a number in the order; both zeros have the same place and only
`notANumber` has none. -/
def place? : Double → Option Int
  | .finite false rank => some rank.val
  | .finite true rank => some (-rank.val)
  | .infinite false => some finiteMagnitudes
  | .infinite true => some (-finiteMagnitudes)
  | .notANumber => none

def compareWith (relation : Int → Int → Bool) (left right : Double) : Bool :=
  match left.place?, right.place? with
  | some leftPlace, some rightPlace => relation leftPlace rightPlace
  | _, _ => false

def equals (left right : Double) : Bool := compareWith (fun a b => a == b) left right
def less (left right : Double) : Bool := compareWith (fun a b => decide (a < b)) left right
def atMost (left right : Double) : Bool := compareWith (fun a b => decide (a ≤ b)) left right

def isNegative (value : Double) : Bool := value.less (zero false)

def toInt? : Double → Option Int
  | .finite negative rank =>
      let units := magnitude rank.val
      if units % unitsInOne = 0 then
        let whole : Int := (units / unitsInOne : Nat)
        some (if negative then -whole else whole)
      else none
  | _ => none

end Double

end LedgerRules
