import Mathlib.Algebra.Order.Floor.Ring
import Mathlib.Algebra.Order.Field.Power
import Mathlib.Data.Int.Log
import Mathlib.Tactic.Linarith
import Mathlib.Tactic.Ring

/-!
# Rounding to a floating grid

The points of a binary floating grid are numbered from zero upwards: each
binade holds `2 ^ fractionBits` of them, and the lowest ones have the least
exponent.  Rounding half to even sends a positive value to the number of a
point.  Both the integer rounding and the numbering are monotone.
-/

namespace Llgw.Foundation.RoundingGrid

variable {K : Type*} [Field K] [LinearOrder K] [FloorRing K]

/-! ## Rounding half to even -/

/-- The nearest integer, and the even one of two that are as near. -/
def roundHalfEven (value : K) : ℤ :=
  if Int.fract value < 1 / 2 then ⌊value⌋
  else if Int.fract value = 1 / 2 then ⌊value⌋ + ⌊value⌋ % 2
  else ⌊value⌋ + 1

section HalfEven

variable {value : K}

theorem roundHalfEven_of_lt (low : Int.fract value < 1 / 2) :
    roundHalfEven value = ⌊value⌋ :=
  if_pos low

theorem roundHalfEven_of_eq (tie : Int.fract value = 1 / 2) :
    roundHalfEven value = ⌊value⌋ + ⌊value⌋ % 2 := by
  rw [roundHalfEven, if_neg tie.not_lt, if_pos tie]

theorem roundHalfEven_of_gt (high : 1 / 2 < Int.fract value) :
    roundHalfEven value = ⌊value⌋ + 1 := by
  rw [roundHalfEven, if_neg high.not_gt, if_neg high.ne']

theorem floor_le_roundHalfEven (value : K) :
    ⌊value⌋ ≤ roundHalfEven value := by
  unfold roundHalfEven
  split_ifs <;> omega

theorem roundHalfEven_le (value : K) :
    roundHalfEven value ≤ ⌊value⌋ + 1 := by
  unfold roundHalfEven
  split_ifs <;> omega

variable [IsStrictOrderedRing K]

theorem roundHalfEven_mono {first second : K} (le : first ≤ second) :
    roundHalfEven first ≤ roundHalfEven second := by
  rcases (Int.floor_le_floor le).lt_or_eq with below | same
  · calc
      roundHalfEven first ≤ ⌊first⌋ + 1 := roundHalfEven_le first
      _ ≤ ⌊second⌋ := below
      _ ≤ roundHalfEven second := floor_le_roundHalfEven second
  · -- With equal floors the order is that of the fractional parts.
    have fractions : Int.fract first ≤ Int.fract second := by
      rw [Int.fract, Int.fract, same]
      exact sub_le_sub_right le _
    rcases lt_trichotomy (Int.fract second) (1 / 2) with low | tie | high
    · rw [roundHalfEven_of_lt low,
        roundHalfEven_of_lt (fractions.trans_lt low), same]
    · rcases (fractions.trans tie.le).lt_or_eq with low | both
      · rw [roundHalfEven_of_lt low, same]
        exact floor_le_roundHalfEven second
      · rw [roundHalfEven_of_eq tie, roundHalfEven_of_eq both, same]
    · rw [roundHalfEven_of_gt high, ← same]
      exact roundHalfEven_le first

/-- Rounding a quotient of naturals, in terms of its remainder. -/
theorem roundHalfEven_div (numerator : ℕ) {denominator : ℕ}
    (positive : 0 < denominator) :
    roundHalfEven ((numerator : K) / denominator) =
      if 2 * (numerator % denominator) < denominator then
        ((numerator / denominator : ℕ) : ℤ)
      else if 2 * (numerator % denominator) = denominator then
        ((numerator / denominator + numerator / denominator % 2 : ℕ) : ℤ)
      else ((numerator / denominator + 1 : ℕ) : ℤ) := by
  have scale : (0 : K) < denominator := Nat.cast_pos.mpr positive
  have floor :
      ⌊(numerator : K) / denominator⌋ =
        ((numerator / denominator : ℕ) : ℤ) := by
    rw [Int.floor_div_natCast, Int.floor_natCast, Int.natCast_div]
  have fraction :
      Int.fract ((numerator : K) / denominator) =
        ((numerator % denominator : ℕ) : K) / denominator :=
    Int.fract_div_natCast_eq_div_natCast_mod
  have below :
      Int.fract ((numerator : K) / denominator) < 1 / 2 ↔
        2 * (numerator % denominator) < denominator := by
    rw [fraction, div_lt_div_iff₀ scale two_pos, one_mul, mul_comm]
    norm_cast
  have tie :
      Int.fract ((numerator : K) / denominator) = 1 / 2 ↔
        2 * (numerator % denominator) = denominator := by
    rw [fraction, div_eq_div_iff scale.ne' two_ne_zero, one_mul, mul_comm]
    norm_cast
  rw [roundHalfEven, floor, if_congr below rfl rfl, if_congr tie rfl rfl]
  push_cast
  rfl

end HalfEven

/-! ## The grid -/

section Grid

variable (fractionBits : ℕ) (least : ℤ)

/-- The exponent of the last place of a value on the grid. -/
def lastPlace (value : K) : ℤ :=
  max (Int.log 2 value - fractionBits) least

/-- The number of the grid point to which a positive value is rounded. -/
def rank (value : K) : ℤ :=
  (lastPlace fractionBits least value - least) * 2 ^ fractionBits +
    roundHalfEven (value / 2 ^ lastPlace fractionBits least value)

variable {value : K}

theorem least_le_lastPlace : least ≤ lastPlace fractionBits least value :=
  le_max_right _ _

variable [IsStrictOrderedRing K]

theorem lastPlace_mono {first second : K} (positive : 0 < first)
    (le : first ≤ second) :
    lastPlace fractionBits least first ≤
      lastPlace fractionBits least second := by
  apply max_le_max_right
  exact sub_le_sub_right (Int.log_mono_right positive le) _

/-- A value is less than `2 ^ (fractionBits + 1)` units of its last place. -/
theorem scaled_lt (value : K) :
    value / 2 ^ lastPlace fractionBits least value <
      2 ^ (fractionBits + 1) := by
  have bound := Int.lt_zpow_succ_log_self Nat.one_lt_two value
  rw [div_lt_iff₀ (zpow_pos two_pos _), ← zpow_natCast,
    ← zpow_add₀ two_ne_zero]
  apply bound.trans_le
  rw [Nat.cast_two]
  apply zpow_le_zpow_right₀ one_le_two
  have place : Int.log 2 value - fractionBits ≤
      lastPlace fractionBits least value := le_max_left _ _
  push_cast
  omega

/-- Above the least exponent a value has a full significand. -/
theorem le_scaled (positive : 0 < value)
    (above : least < lastPlace fractionBits least value) :
    2 ^ fractionBits ≤ value / 2 ^ lastPlace fractionBits least value := by
  have bound := Int.zpow_log_le_self Nat.one_lt_two positive
  have place :
      lastPlace fractionBits least value =
        Int.log 2 value - fractionBits := by
    unfold lastPlace at above ⊢
    omega
  rw [le_div_iff₀ (zpow_pos two_pos _), ← zpow_natCast,
    ← zpow_add₀ two_ne_zero, place, add_sub_cancel]
  exact_mod_cast bound

/-- The rounded significand may carry to the next power of two. -/
theorem rounded_le (value : K) :
    roundHalfEven (value / 2 ^ lastPlace fractionBits least value) ≤
      2 ^ (fractionBits + 1) := by
  have floor :
      ⌊value / 2 ^ lastPlace fractionBits least value⌋ <
        2 ^ (fractionBits + 1) := by
    rw [Int.floor_lt]
    exact_mod_cast scaled_lt fractionBits least value
  exact (roundHalfEven_le _).trans floor

theorem le_rounded (positive : 0 < value)
    (above : least < lastPlace fractionBits least value) :
    2 ^ fractionBits ≤
      roundHalfEven (value / 2 ^ lastPlace fractionBits least value) := by
  have floor :
      2 ^ fractionBits ≤
        ⌊value / 2 ^ lastPlace fractionBits least value⌋ := by
    rw [Int.le_floor]
    exact_mod_cast le_scaled fractionBits least positive above
  exact floor.trans (floor_le_roundHalfEven _)

theorem rank_nonneg (nonneg : 0 ≤ value) :
    0 ≤ rank fractionBits least value := by
  have binade :
      0 ≤ (lastPlace fractionBits least value - least) *
        2 ^ fractionBits := by
    apply mul_nonneg
    · exact sub_nonneg.mpr (least_le_lastPlace fractionBits least)
    · positivity
  have scaled : 0 ≤ value / 2 ^ lastPlace fractionBits least value :=
    div_nonneg nonneg (zpow_pos two_pos _).le
  have significand :=
    (Int.floor_nonneg.mpr scaled).trans (floor_le_roundHalfEven _)
  exact add_nonneg binade significand

/-- Rounding to the grid is monotone on positive values. -/
theorem rank_mono {first second : K} (positive : 0 < first)
    (le : first ≤ second) :
    rank fractionBits least first ≤ rank fractionBits least second := by
  rcases (lastPlace_mono fractionBits least positive le).lt_or_eq with
    below | same
  · -- A carry of the lower value reaches at most the next binade.
    have low := rounded_le fractionBits least first
    have above : least < lastPlace fractionBits least second :=
      (least_le_lastPlace fractionBits least).trans_lt below
    have high :=
      le_rounded fractionBits least (positive.trans_le le) above
    have binade :
        (lastPlace fractionBits least first - least + 1) *
            2 ^ fractionBits ≤
          (lastPlace fractionBits least second - least) *
            2 ^ fractionBits := by
      apply mul_le_mul_of_nonneg_right
      · omega
      · positivity
    unfold rank
    rw [pow_succ] at low
    linarith
  · unfold rank
    rw [same]
    apply add_le_add_right
    apply roundHalfEven_mono
    exact div_le_div_of_nonneg_right le (zpow_pos two_pos _).le

end Grid

end Llgw.Foundation.RoundingGrid
