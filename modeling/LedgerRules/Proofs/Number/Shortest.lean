import LedgerRules.Proofs.Number.Interval

/-!
The shortest digits lie in the rounding interval of the magnitude they are written for. Seventeen
digits always suffice: with so many, the decimal grid is finer than the interval is wide. Different
magnitudes are therefore written as different decimal numbers.
-/

namespace LedgerRules.Double

def DecimalDigits.value (decimal : DecimalDigits) : ℚ := decimal.digits * 10 ^ decimal.exponent

theorem DecimalDigits.value_trimmed (steps : Nat) (decimal : DecimalDigits) :
    (decimal.trimmed steps).value = decimal.value := by
  induction steps generalizing decimal with
  | zero => rfl
  | succ steps ih =>
      rw [trimmed]
      split
      next trailing =>
        have digits : (decimal.digits : ℚ) = (decimal.digits / 10 : Nat) * 10 := by
          have whole : decimal.digits = decimal.digits / 10 * 10 := by omega
          exact_mod_cast whole
        rw [ih, value, value, digits, zpow_add₀ (by norm_num), zpow_one]
        ring
      · rfl

/-! The first digit of a quotient. -/

theorem digitCountWithin_eq {steps value : Nat} (fits : value < 2 ^ steps) :
    digitCountWithin steps value = (Nat.digits 10 value).length := by
  induction steps generalizing value with
  | zero =>
      obtain rfl : value = 0 := by omega
      rfl
  | succ steps ih =>
      rw [digitCountWithin]
      by_cases zero : value = 0
      · simp [zero]
      · have smaller : value / 10 < 2 ^ steps := by
          rw [pow_succ] at fits
          omega
        rw [if_neg zero, ih smaller, Nat.digits_def' (by decide) (Nat.pos_of_ne_zero zero),
          List.length_cons]

theorem digitCount_eq (value : Nat) : digitCount value = (Nat.digits 10 value).length :=
  digitCountWithin_eq Nat.lt_log2_self

theorem lt_pow_digitCount (value : Nat) : value < 10 ^ digitCount value := by
  rw [digitCount_eq]
  exact Nat.lt_base_pow_length_digits (by decide)

theorem digitCount_pos {value : Nat} (positive : 0 < value) : 0 < digitCount value := by
  rw [digitCount_eq, List.length_pos_iff, Nat.digits_ne_nil_iff_ne_zero]
  omega

theorem pow_digitCount_le {value : Nat} (positive : 0 < value) :
    10 ^ (digitCount value - 1) ≤ value := by
  have filled := digitCount_pos positive
  rw [digitCount_eq] at filled ⊢
  rw [← Nat.lt_digits_length_iff (by decide)]
  omega

/-- A quotient is at least the power of ten of its leading digit. -/
theorem pow_leadingExponent_le {numerator denominator : Nat} (positive : 0 < numerator)
    (divisor : 0 < denominator) :
    (10 : ℚ) ^ leadingExponent numerator denominator * denominator ≤ numerator := by
  have counted {value : Nat} (filled : 0 < value) :
      (digitCount value : ℤ) - 1 = (digitCount value - 1 : Nat) := by
    have places := digitCount_pos filled
    omega
  rw [leadingExponent]
  by_cases whole : denominator ≤ numerator
  · have quotient : 0 < numerator / denominator := Nat.div_pos whole divisor
    have reached : 10 ^ (digitCount (numerator / denominator) - 1) * denominator ≤ numerator :=
      (Nat.mul_le_mul_right _ (pow_digitCount_le quotient)).trans
        (Nat.div_mul_le_self numerator denominator)
    rw [if_pos whole, counted quotient, zpow_natCast]
    exact_mod_cast reached
  · have scaled {places : Nat} (reached : denominator ≤ numerator * 10 ^ places) :
        (10 : ℚ) ^ (-(places : ℤ)) * denominator ≤ numerator := by
      have cast : (denominator : ℚ) ≤ numerator * 10 ^ places := by exact_mod_cast reached
      rw [zpow_neg, zpow_natCast, inv_mul_le_iff₀ (by positivity), mul_comm]
      exact cast
    have quotient : 0 < denominator / numerator := Nat.div_pos (by omega) positive
    rw [if_neg whole]
    dsimp only
    split
    next early =>
      rw [counted quotient]
      exact scaled early
    next late =>
      have below :=
        (Nat.div_lt_iff_lt_mul positive).mp (lt_pow_digitCount (denominator / numerator))
      rw [mul_comm] at below
      exact scaled below.le

/-! A hit of the decimal grid. -/

/-- The distance of the points of a decimal grid is `gridUnit / gridFactor`. -/
def gridFactor (exponent : Int) : Nat := Nat.pow 10 (-exponent).toNat

def gridUnit (exponent : Int) : Nat := 4 * unitsInOne * Nat.pow 10 exponent.toNat

theorem gridFactor_pos (exponent : Int) : 0 < gridFactor exponent := Nat.pow_pos (by decide)

theorem unitsInOne_pos : 0 < unitsInOne := by decide +kernel

theorem gridUnit_pos (exponent : Int) : 0 < gridUnit exponent :=
  Nat.mul_pos (Nat.mul_pos (by decide) unitsInOne_pos) (Nat.pow_pos (by decide))

theorem gridUnit_eq (exponent : Int) :
    (gridUnit exponent : ℚ) = 4 * unitsInOne * 10 ^ exponent * gridFactor exponent := by
  have powers : (10 : ℚ) ^ exponent.toNat = 10 ^ exponent * 10 ^ (-exponent).toNat := by
    rw [← zpow_natCast, ← zpow_natCast, ← zpow_add₀ (by norm_num)]
    congr 1
    omega
  simp only [gridUnit, gridFactor, Nat.pow_eq]
  push_cast
  rw [powers]
  ring

theorem gridPoint_eq (point : Nat) (exponent : Int) :
    DecimalDigits.value ⟨point, exponent⟩ * (4 * unitsInOne) * gridFactor exponent =
      point * gridUnit exponent := by
  rw [gridUnit_eq, DecimalDigits.value]
  ring

/-- Whether a point of the grid reads back as the value. -/
def isInside (interval : RoundingInterval) (factor grid point : Nat) : Bool :=
  if interval.closed then
    interval.low * factor ≤ point * grid && point * grid ≤ interval.high * factor
  else interval.low * factor < point * grid && point * grid < interval.high * factor

theorem chooseGridPoint_eq (interval : RoundingInterval) (factor grid : Nat) :
    chooseGridPoint interval factor grid =
      let lower := interval.value * factor / grid
      let toLower := interval.value * factor - lower * grid
      let toUpper := (lower + 1) * grid - interval.value * factor
      match isInside interval factor grid lower, isInside interval factor grid (lower + 1) with
      | true, true =>
          some (if toLower < toUpper then lower
            else if toUpper < toLower then lower + 1
            else lower + lower % 2)
      | true, false => some lower
      | false, true => some (lower + 1)
      | false, false => none := rfl

theorem holds_iff {interval : RoundingInterval} {exponent : Int} {point : Nat} :
    interval.Holds (DecimalDigits.value ⟨point, exponent⟩ * (4 * unitsInOne)) ↔
      isInside interval (gridFactor exponent) (gridUnit exponent) point = true := by
  have factor : (0 : ℚ) < gridFactor exponent := Nat.cast_pos.mpr (gridFactor_pos exponent)
  have order (left right : ℚ) :
      (left ≤ right ↔ left * gridFactor exponent ≤ right * gridFactor exponent) ∧
        (left < right ↔ left * gridFactor exponent < right * gridFactor exponent) :=
    ⟨(mul_le_mul_iff_left₀ factor).symm, (mul_lt_mul_iff_left₀ factor).symm⟩
  rw [RoundingInterval.Holds, (order interval.low _).1, (order _ interval.high).1,
    (order interval.low _).2, (order _ interval.high).2, gridPoint_eq, isInside]
  norm_cast
  by_cases closed : interval.closed = true
  · simp [closed]
  · simp [closed]

theorem isInside_of_chosen {interval : RoundingInterval} {factor grid point : Nat}
    (chosen : chooseGridPoint interval factor grid = some point) :
    isInside interval factor grid point = true := by
  rw [chooseGridPoint_eq] at chosen
  dsimp only at chosen
  split at chosen
  next lower upper =>
    split at chosen
    · exact Option.some.inj chosen ▸ lower
    · split at chosen
      · exact Option.some.inj chosen ▸ upper
      · rcases Nat.mod_two_eq_zero_or_one (interval.value * factor / grid) with even | odd
        · rw [even] at chosen
          exact Option.some.inj chosen ▸ lower
        · rw [odd] at chosen
          exact Option.some.inj chosen ▸ upper
  next lower _ => exact Option.some.inj chosen ▸ lower
  next _ upper => exact Option.some.inj chosen ▸ upper
  next => cases chosen

theorem isInside_of_strict {interval : RoundingInterval} {factor grid point : Nat}
    (above : interval.low * factor < point * grid)
    (below : point * grid < interval.high * factor) :
    isInside interval factor grid point = true := by
  simp [isInside, above, below, above.le, below.le]

/-- A grid that is finer than the interval is wide has a point inside it. -/
theorem exists_chosen {interval : RoundingInterval} {factor grid : Nat}
    (fine : interval.low * factor + grid < interval.high * factor)
    (low : interval.low ≤ interval.value) (high : interval.value < interval.high)
    (positive : 0 < factor) (spaced : 0 < grid) :
    ∃ point, chooseGridPoint interval factor grid = some point := by
  have left : interval.low * factor ≤ interval.value * factor := Nat.mul_le_mul_right _ low
  have right : interval.value * factor < interval.high * factor :=
    Nat.mul_lt_mul_of_pos_right high positive
  have floor := Nat.div_mul_le_self (interval.value * factor) grid
  have ceiling : interval.value * factor < (interval.value * factor / grid + 1) * grid := by
    rw [Nat.mul_comm _ grid]
    exact Nat.lt_mul_div_succ _ spaced
  rw [chooseGridPoint_eq]
  dsimp only
  by_cases reached : interval.low * factor < interval.value * factor / grid * grid
  · rw [isInside_of_strict reached (floor.trans_lt right)]
    cases isInside interval factor grid (interval.value * factor / grid + 1) <;> exact ⟨_, rfl⟩
  · have next : isInside interval factor grid (interval.value * factor / grid + 1) = true := by
      apply isInside_of_strict (left.trans_lt ceiling)
      rw [Nat.add_mul, Nat.one_mul]
      omega
    rw [next]
    cases isInside interval factor grid (interval.value * factor / grid) <;> exact ⟨_, rfl⟩

/-- An interval is wider than the last of seventeen digits of its value. -/
theorem value_add_low_lt (rank : Nat) :
    (roundingInterval rank).value + (roundingInterval rank).low * 10 ^ 16 <
      (roundingInterval rank).high * 10 ^ 16 := by
  have unit := unit_pos rank
  have bound : significand rank * Nat.pow 2 (scale rank) <
      2 * binade * Nat.pow 2 (scale rank) :=
    Nat.mul_lt_mul_of_pos_right (significand_lt rank) unit
  simp only [roundingInterval, magnitude]
  by_cases first : significand rank = binade ∧ 0 < scale rank
  · rw [if_pos first, first.1, binade_eq]
    omega
  · rw [if_neg first]
    rw [binade_eq] at bound
    omega

/-- With seventeen digits the grid is finer than every interval is wide. -/
theorem fine_of_leading {rank : Nat} (positive : 0 < rank) {leading : Int}
    (first : leading = leadingExponent (roundingInterval rank).value (4 * unitsInOne)) :
    (roundingInterval rank).low * gridFactor (leading - 16) + gridUnit (leading - 16) <
      (roundingInterval rank).high * gridFactor (leading - 16) := by
  have value : 0 < (roundingInterval rank).value :=
    Nat.mul_pos (by decide) (magnitude_pos positive)
  have powers : (10 : ℚ) ^ leading = 10 ^ (leading - 16) * 10 ^ 16 := by
    rw [← zpow_natCast, ← zpow_add₀ (by norm_num)]
    simp
  have reached : (10 : ℚ) ^ leading * (4 * unitsInOne) ≤ (roundingInterval rank).value := by
    have bound := pow_leadingExponent_le value (Nat.mul_pos (by decide : 0 < 4) unitsInOne_pos)
    rw [← first] at bound
    exact_mod_cast bound
  have many : gridUnit (leading - 16) * 10 ^ 16 ≤
      (roundingInterval rank).value * gridFactor (leading - 16) := by
    have factor : (0 : ℚ) < gridFactor (leading - 16) := Nat.cast_pos.mpr (gridFactor_pos _)
    have cast : (gridUnit (leading - 16) * 10 ^ 16 : ℚ) ≤
        (roundingInterval rank).value * gridFactor (leading - 16) :=
      calc (gridUnit (leading - 16) * 10 ^ 16 : ℚ)
          = 10 ^ leading * (4 * unitsInOne) * gridFactor (leading - 16) := by
            rw [gridUnit_eq, powers]
            ring
        _ ≤ (roundingInterval rank).value * gridFactor (leading - 16) :=
            mul_le_mul_of_nonneg_right reached factor.le
    exact_mod_cast cast
  have wide := Nat.mul_lt_mul_of_pos_right (value_add_low_lt rank) (gridFactor_pos (leading - 16))
  rw [Nat.add_mul] at wide
  have shrunk : ((roundingInterval rank).low * gridFactor (leading - 16) +
      gridUnit (leading - 16)) * 10 ^ 16 <
        (roundingInterval rank).high * gridFactor (leading - 16) * 10 ^ 16 := by
    linarith
  exact Nat.lt_of_mul_lt_mul_right shrunk

theorem holds_shortestFrom {interval : RoundingInterval} {leading : Int}
    (hit : ∃ point, chooseGridPoint interval (gridFactor (leading - 16)) (gridUnit (leading - 16)) =
      some point) {steps count : Nat} (tried : steps + count = 18) (counted : count ≤ 17) :
    interval.Holds ((shortestFrom interval leading steps count).value * (4 * unitsInOne)) := by
  induction steps generalizing count with
  | zero => omega
  | succ steps ih =>
      simp only [shortestFrom]
      split
      next digits chosen =>
        rw [DecimalDigits.value_trimmed]
        exact holds_iff.mpr (isInside_of_chosen chosen)
      next missed =>
        have earlier : count ≠ 17 := by
          rintro rfl
          obtain ⟨point, chosen⟩ := hit
          have same : leading - (17 : Nat) + 1 = leading - 16 := by omega
          rw [same] at missed
          cases missed.symm.trans chosen
        exact ih (by omega) (by omega)

theorem holds_shortest (rank : Nat) :
    (roundingInterval rank).Holds ((shortest rank).value * (4 * unitsInOne)) := by
  by_cases zero : rank = 0
  · have value : (shortest rank).value = 0 := by simp [shortest, zero, DecimalDigits.value]
    have closed : (roundingInterval rank).closed = true := (closed_iff rank).mpr (by omega)
    have low : (roundingInterval rank).low = 0 := by
      subst zero
      rfl
    rw [RoundingInterval.Holds, if_pos closed, value, low, zero_mul]
    exact ⟨le_rfl, Nat.cast_nonneg _⟩
  · have hit := exists_chosen (fine_of_leading (Nat.pos_of_ne_zero zero) rfl) (low_le_value rank)
      (value_lt_high rank) (gridFactor_pos _) (gridUnit_pos _)
    rw [shortest, if_neg zero]
    exact holds_shortestFrom hit rfl (by decide)

/-- The shortest digits tell the magnitude. -/
theorem shortest_value_injective {rank other : Nat}
    (same : (shortest rank).value = (shortest other).value) : rank = other :=
  rank_unique (holds_shortest rank) (same ▸ holds_shortest other)

end LedgerRules.Double
