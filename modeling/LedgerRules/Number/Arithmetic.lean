import LedgerRules.Number.Double

/-!
Sums and products of floating point numbers, rounded to the nearest number.
-/

namespace LedgerRules.Double

def negate : Double → Double
  | .finite negative rank => .finite (!negative) rank
  | .infinite negative => .infinite (!negative)
  | .notANumber => .notANumber

def hasMinus : Double → Bool
  | .finite negative _ => negative
  | .infinite negative => negative
  | .notANumber => false

def isZero (value : Double) : Bool := value.equals (zero false)

def units : Double → Int
  | .finite negative rank =>
      let size : Int := magnitude rank.val
      if negative then -size else size
  | _ => 0

/-- A sum of two finite numbers is a negative zero only if both are. -/
def plus (left right : Double) : Double :=
  match left, right with
  | .notANumber, _ => .notANumber
  | _, .notANumber => .notANumber
  | .infinite leftSign, .infinite rightSign =>
      if leftSign == rightSign then left else .notANumber
  | .infinite _, _ => left
  | _, .infinite _ => right
  | _, _ =>
      let sum := left.units + right.units
      if sum = 0 then zero (left.hasMinus && right.hasMinus)
      else ofQuotient (sum < 0) sum.natAbs unitsInOne

def times (left right : Double) : Double :=
  let negative := left.hasMinus != right.hasMinus
  match left, right with
  | .notANumber, _ => .notANumber
  | _, .notANumber => .notANumber
  | .infinite _, other => if other.isZero then .notANumber else .infinite negative
  | other, .infinite _ => if other.isZero then .notANumber else .infinite negative
  | .finite _ leftRank, .finite _ rightRank =>
      ofQuotient negative (magnitude leftRank.val * magnitude rightRank.val)
        (unitsInOne * unitsInOne)

end LedgerRules.Double
