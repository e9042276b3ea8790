import Mathlib
import LedgerRules.Number.Shortest

/-!
Rounding intervals. The interval of a magnitude reaches half way to its neighbours on both sides, so
that two intervals have one point in common at most, and that point belongs to one of them only.
-/

namespace LedgerRules.Double

theorem binade_eq : binade = 4503599627370496 := rfl

theorem significand_cases (rank : Nat) :
    (rank < 2 * 4503599627370496 ∧ significand rank = rank) ∨
      (2 * 4503599627370496 ≤ rank ∧
        significand rank = 4503599627370496 + rank % 4503599627370496) := by
  rcases Nat.lt_or_ge rank (2 * binade) with small | large
  · exact .inl ⟨small, if_pos small⟩
  · exact .inr ⟨large, if_neg (Nat.not_lt.mpr large)⟩

/-- The next magnitude is a unit further, or it is the first one of the next scale. -/
theorem next_scale (rank : Nat) :
    (scale (rank + 1) = scale rank ∧ significand (rank + 1) = significand rank + 1 ∧
      ¬(significand (rank + 1) = binade ∧ 0 < scale (rank + 1))) ∨
    (scale (rank + 1) = scale rank + 1 ∧ significand (rank + 1) = binade ∧
      significand rank + 1 = 2 * binade) := by
  have own := significand_cases rank
  have next := significand_cases (rank + 1)
  simp only [scale, binade_eq]
  omega

theorem significand_lt (rank : Nat) : significand rank < 2 * binade := by
  have own := significand_cases rank
  rw [binade_eq]
  omega

theorem significand_pos {rank : Nat} (positive : 0 < rank) : 0 < significand rank := by
  have own := significand_cases rank
  omega

theorem significand_mod_two (rank : Nat) : significand rank % 2 = rank % 2 := by
  have own := significand_cases rank
  omega

theorem unit_pos (rank : Nat) : 0 < Nat.pow 2 (scale rank) := Nat.pow_pos (by decide)

theorem magnitude_succ (rank : Nat) :
    magnitude (rank + 1) = magnitude rank + Nat.pow 2 (scale rank) := by
  rcases next_scale rank with ⟨sameScale, next, _⟩ | ⟨nextScale, first, last⟩
  · rw [magnitude, magnitude, sameScale, next, Nat.add_mul, Nat.one_mul]
  · rw [magnitude, magnitude, nextScale, first, ← Nat.succ_mul, Nat.succ_eq_add_one, last]
    simp only [Nat.pow_eq, Nat.pow_succ]
    ring

theorem magnitude_pos {rank : Nat} (positive : 0 < rank) : 0 < magnitude rank :=
  Nat.mul_pos (significand_pos positive) (unit_pos rank)

theorem low_le_value (rank : Nat) :
    (roundingInterval rank).low ≤ (roundingInterval rank).value := by
  simp [roundingInterval]

theorem value_lt_high (rank : Nat) :
    (roundingInterval rank).value < (roundingInterval rank).high := by
  have unit := unit_pos rank
  simp only [roundingInterval]
  omega

/-- Two neighbouring intervals meet half way. -/
theorem low_succ (rank : Nat) :
    (roundingInterval (rank + 1)).low = (roundingInterval rank).high := by
  simp only [roundingInterval, magnitude_succ]
  rcases next_scale rank with ⟨sameScale, _, inside⟩ | ⟨nextScale, first, _⟩
  · rw [if_neg inside, sameScale]
    omega
  · rw [if_pos ⟨first, by omega⟩, nextScale]
    simp only [Nat.pow_eq, Nat.pow_succ]
    omega

theorem low_strictMono : StrictMono fun rank => (roundingInterval rank).low := by
  apply strictMono_nat_of_lt_succ
  intro rank
  rw [low_succ]
  exact (low_le_value rank).trans_lt (value_lt_high rank)

/-- The points that are rounded to the value. -/
def RoundingInterval.Holds (interval : RoundingInterval) (point : ℚ) : Prop :=
  if interval.closed then interval.low ≤ point ∧ point ≤ interval.high
  else interval.low < point ∧ point < interval.high

theorem RoundingInterval.Holds.bounds {interval : RoundingInterval} {point : ℚ}
    (holds : interval.Holds point) : interval.low ≤ point ∧ point ≤ interval.high := by
  rw [Holds] at holds
  split at holds
  · exact holds
  · exact ⟨holds.1.le, holds.2.le⟩

theorem RoundingInterval.Holds.closed_of_end {interval : RoundingInterval} {point : ℚ}
    (holds : interval.Holds point) (ending : point = interval.low ∨ point = interval.high) :
    interval.closed = true := by
  rw [Holds] at holds
  split at holds
  next closed => exact closed
  · rcases ending with rfl | rfl
    · exact absurd holds.1 (lt_irrefl _)
    · exact absurd holds.2 (lt_irrefl _)

theorem closed_iff (rank : Nat) : (roundingInterval rank).closed = true ↔ rank % 2 = 0 := by
  simp [roundingInterval, significand_mod_two]

theorem not_both_hold {rank other : Nat} (before : rank < other) {point : ℚ}
    (first : (roundingInterval rank).Holds point) : ¬(roundingInterval other).Holds point := by
  intro second
  have reach : (roundingInterval rank).high ≤ (roundingInterval other).low := by
    rw [← low_succ]
    exact low_strictMono.monotone before
  have met : point = (roundingInterval rank).high ∧ point = (roundingInterval other).low := by
    have reachable : ((roundingInterval rank).high : ℚ) ≤ (roundingInterval other).low :=
      Nat.cast_le.mpr reach
    have upper := first.bounds.2
    have lower := second.bounds.1
    exact ⟨by linarith, by linarith⟩
  have next : other = rank + 1 := by
    have same : (roundingInterval other).low = (roundingInterval (rank + 1)).low := by
      rw [low_succ]
      exact Nat.cast_injective (met.2.symm.trans met.1)
    exact low_strictMono.injective same
  -- Both would have to be closed, but of two neighbours only one has an even significand.
  have even := (closed_iff rank).mp (first.closed_of_end (.inr met.1))
  have evenToo := (closed_iff other).mp (second.closed_of_end (.inl met.2))
  omega

theorem rank_unique {rank other : Nat} {point : ℚ} (first : (roundingInterval rank).Holds point)
    (second : (roundingInterval other).Holds point) : rank = other := by
  rcases Nat.lt_trichotomy rank other with before | same | after
  · exact absurd second (not_both_hold before first)
  · exact same
  · exact absurd first (not_both_hold after second)

end LedgerRules.Double
