import Llgw.Foundation.RoundingGrid
import Mathlib

/-!
# Rounding to the binary64 grid

The model of `Float` shifts a significand bit by bit and rounds on two
residual bits, once more taking up a carry.  The result is the point of the
binary64 grid to which the exact value is rounded.
-/

namespace Llgw.Foundation.FloatGrid

open Float.Model
open Float.Model.UnpackedFloat
open Llgw.Foundation.RoundingGrid

/-! ## Shifting a significand to the right -/

/-- What a significand becomes when `amount` of its bits are dropped. -/
structure Shifted (whole amount : ℕ) (extended : ExtendedMantissa) :
    Prop where
  mantissa : extended.mantissa = whole / 2 ^ amount
  roundBit :
    extended.roundBit = true ↔ 2 ^ amount ≤ 2 * (whole % 2 ^ amount)
  stickyBit :
    extended.stickyBit = true ↔
      2 * (whole % 2 ^ amount) ≠ 0 ∧
        2 * (whole % 2 ^ amount) ≠ 2 ^ amount

theorem shifted_zero (whole : ℕ) :
    Shifted whole 0 (.ofMantissaAndAccuracy whole .exact) := by
  constructor
  · simp [ExtendedMantissa.ofMantissaAndAccuracy]
  · simp [ExtendedMantissa.ofMantissaAndAccuracy, Nat.mod_one]
  · simp [ExtendedMantissa.ofMantissaAndAccuracy, Nat.mod_one]

/-- One more dropped bit becomes the round bit, the old one sticks. -/
theorem Shifted.shiftRightOne {whole amount : ℕ}
    {extended : ExtendedMantissa}
    (shifted : Shifted whole amount extended) :
    Shifted whole (amount + 1) extended.shiftRightOne := by
  rcases shifted with ⟨significand, roundBit, stickyBit⟩
  have remainder :
      whole % 2 ^ (amount + 1) =
        whole % 2 ^ amount +
          2 ^ amount * (whole / 2 ^ amount % 2) := by
    rw [pow_succ, Nat.mod_mul]
  have bound := Nat.mod_lt whole (Nat.two_pow_pos amount)
  have bit := Nat.mod_two_eq_zero_or_one (whole / 2 ^ amount)
  constructor
  · simp only [ExtendedMantissa.shiftRightOne, significand]
    rw [Nat.div_div_eq_div_mul, pow_succ]
  · simp only [ExtendedMantissa.shiftRightOne, significand, bne_iff_ne]
    rw [remainder, pow_succ]
    rcases bit with even | odd
    · rw [even]
      omega
    · rw [odd]
      omega
  · simp only [ExtendedMantissa.shiftRightOne, Bool.or_eq_true, roundBit,
      stickyBit]
    rw [remainder, pow_succ]
    rcases bit with even | odd
    · rw [even]
      omega
    · rw [odd]
      omega

theorem shifted_shiftRight (whole amount : ℕ) :
    Shifted whole amount
      (ExtendedMantissa.ofMantissaAndAccuracy whole .exact >>>
        amount) := by
  induction amount with
  | zero => exact shifted_zero whole
  | succ amount induction => exact induction.shiftRightOne

/-- The residual bits decide the rounding half to even. -/
theorem Shifted.roundedMantissa {whole amount : ℕ}
    {extended : ExtendedMantissa}
    (shifted : Shifted whole amount extended) :
    (extended.roundedMantissa : ℤ) =
      roundHalfEven ((whole : ℚ) / (2 ^ amount : ℕ)) := by
  rcases extended with ⟨significand, roundBit, stickyBit⟩
  rcases shifted with ⟨rfl, round, sticky⟩
  rw [roundHalfEven_div whole (Nat.two_pow_pos amount)]
  simp only at round sticky
  cases roundBit with
  | false =>
      have low : 2 * (whole % 2 ^ amount) < 2 ^ amount := by
        simpa using round
      rw [if_pos low]
      cases stickyBit <;> rfl
  | true =>
      have high : 2 ^ amount ≤ 2 * (whole % 2 ^ amount) := by
        simpa using round
      rw [if_neg high.not_gt]
      have positive := Nat.two_pow_pos amount
      cases stickyBit with
      | false =>
          have tie : 2 * (whole % 2 ^ amount) = 2 ^ amount := by
            simp only [Bool.false_eq_true, false_iff] at sticky
            omega
          rw [if_pos tie]
          rfl
      | true =>
          have above : 2 * (whole % 2 ^ amount) ≠ 2 ^ amount :=
            (sticky.mp rfl).2
          rw [if_neg above]
          rfl

/-! ## Rounding to the binary64 grid -/

/-- The value of a significand and an exponent. -/
def magnitude (mantissa : ℕ) (exponent : ℤ) : ℚ :=
  mantissa * 2 ^ exponent

theorem magnitude_pos {mantissa : ℕ} (positive : 0 < mantissa)
    (exponent : ℤ) : 0 < magnitude mantissa exponent :=
  mul_pos (Nat.cast_pos.mpr positive) (zpow_pos two_pos exponent)

theorem log_magnitude {mantissa : ℕ} (positive : 0 < mantissa)
    (exponent : ℤ) :
    Int.log 2 (magnitude mantissa exponent) =
      mantissa.log2 + exponent := by
  have above := magnitude_pos positive exponent
  have scale : (0 : ℚ) < 2 ^ exponent := zpow_pos two_pos exponent
  apply le_antisymm
  · rw [← Int.lt_add_one_iff, ← Int.lt_zpow_iff_log_lt Nat.one_lt_two above,
      magnitude, add_right_comm, Nat.cast_two, zpow_add₀ two_ne_zero]
    apply mul_lt_mul_of_pos_right _ scale
    exact_mod_cast Nat.lt_log2_self
  · rw [← Int.zpow_le_iff_le_log Nat.one_lt_two above, magnitude,
      Nat.cast_two, zpow_add₀ two_ne_zero]
    apply mul_le_mul_of_nonneg_right _ scale.le
    exact_mod_cast Nat.log2_self_le positive.ne'

/-- Dropped bits scale a value to the exponent that it is shifted to. -/
theorem magnitude_div {mantissa : ℕ} {exponent target : ℤ}
    (below : exponent ≤ target) :
    (mantissa : ℚ) / (2 ^ (target - exponent).toNat : ℕ) =
      magnitude mantissa exponent / 2 ^ target := by
  have amount : ((target - exponent).toNat : ℤ) = target - exponent :=
    Int.toNat_of_nonneg (sub_nonneg.mpr below)
  rw [magnitude, Nat.cast_pow, Nat.cast_two, ← zpow_natCast (2 : ℚ), amount,
    zpow_sub₀ two_ne_zero, div_div_eq_mul_div]

/-- The number of a positive value on the binary64 grid. -/
abbrev gridNumber : ℚ → ℤ := rank 52 (-1074)

/-- The exponent of the last place of a value on the binary64 grid. -/
abbrev place : ℚ → ℤ := lastPlace 52 (-1074)

theorem targetExponent_eq_place {mantissa : ℕ} (positive : 0 < mantissa)
    (exponent : ℤ) :
    Format.binary64.targetExponent (totalExponent mantissa exponent) =
      place (magnitude mantissa exponent) := by
  have least : Format.binary64.minExponent = -1074 := rfl
  have bits : (Format.binary64.mantissaBits : ℤ) = 53 := rfl
  rw [place, lastPlace, log_magnitude positive, Format.targetExponent,
    totalExponent, least, bits]
  congr 1
  push_cast
  omega

/-- A significand of a point of the grid and the exponent of its place. -/
structure Canonical (mantissa : ℕ) (exponent : ℤ) : Prop where
  bounded : mantissa < 2 ^ 53
  least : -1074 ≤ exponent
  normal : 2 ^ 52 ≤ mantissa ∨ exponent = -1074

/-- The number of a point of the grid. -/
def number (mantissa : ℕ) (exponent : ℤ) : ℤ :=
  (exponent + 1074) * 2 ^ 52 + mantissa

/-- A result that is the point of the grid with this number. -/
inductive OnGrid : ℤ → UnpackedFloat → Prop where
  | zero : OnGrid 0 (.zero .positive)
  | finite {mantissa : ℕ} {exponent : ℤ} {positive : 0 < mantissa}
      (canonical : Canonical mantissa exponent) :
      OnGrid (number mantissa exponent)
        (.finite .positive mantissa exponent positive)

/-- The first shift drops the bits below the last place and rounds. -/
theorem first_shift {mantissa : ℕ} {exponent : ℤ} (positive : 0 < mantissa)
    (below : exponent ≤ place (magnitude mantissa exponent)) :
    let shifted :=
      shiftToTargetExponent .binary64 mantissa exponent .exact
    shifted.2 = place (magnitude mantissa exponent) ∧
      (shifted.1.roundedMantissa : ℤ) =
        roundHalfEven
          (magnitude mantissa exponent /
            2 ^ place (magnitude mantissa exponent)) := by
  intro shifted
  have target := targetExponent_eq_place positive exponent
  constructor
  · show exponent +
        ((Format.binary64.targetExponent
          (totalExponent mantissa exponent) - exponent).toNat : ℤ) = _
    rw [target, Int.toNat_of_nonneg (sub_nonneg.mpr below),
      add_sub_cancel]
  · have rounded :=
      (shifted_shiftRight mantissa
        (Format.binary64.targetExponent
          (totalExponent mantissa exponent) - exponent).toNat
        ).roundedMantissa
    apply rounded.trans
    rw [target, magnitude_div below]

/-- How far the exponent of a significand is below that of its last place. -/
def excess (mantissa : ℕ) (exponent : ℤ) : ℕ :=
  (Format.binary64.targetExponent (totalExponent mantissa exponent) -
    exponent).toNat

theorem excess_eq (mantissa : ℕ) (exponent : ℤ) :
    excess mantissa exponent =
      (max (mantissa.log2 + 1 + exponent - 53) (-1074) - exponent).toNat :=
  rfl

/-- A significand of at most 53 bits is in its place. -/
theorem excess_eq_zero {mantissa : ℕ} {exponent : ℤ}
    (bounded : mantissa < 2 ^ 53) (least : -1074 ≤ exponent) :
    excess mantissa exponent = 0 := by
  have bits : mantissa.log2 < 53 := by
    rcases Nat.eq_zero_or_pos mantissa with rfl | positive
    · rw [Nat.log2_zero]
      norm_num
    · exact (Nat.log2_lt positive.ne').mpr bounded
  rw [excess_eq]
  omega

/-- A significand that has just carried is one place too low. -/
theorem excess_carry {exponent : ℤ} (least : -1074 ≤ exponent) :
    excess (2 ^ 53) exponent = 1 := by
  rw [excess_eq, Nat.log2_two_pow]
  omega

/-- The second shift takes up the carry of the rounding, if there is one. -/
theorem second_shift {mantissa : ℕ} {exponent : ℤ}
    (bounded : mantissa ≤ 2 ^ 53) (least : -1074 ≤ exponent)
    (normal : 2 ^ 52 ≤ mantissa ∨ exponent = -1074) :
    let shifted :=
      shiftToTargetExponent .binary64 mantissa exponent .exact
    Canonical shifted.1.mantissa shifted.2 ∧
      number shifted.1.mantissa shifted.2 = number mantissa exponent := by
  intro shifted
  have exponents : shifted.2 = exponent + excess mantissa exponent := rfl
  have mantissas :
      shifted.1.mantissa = mantissa / 2 ^ excess mantissa exponent :=
    (shifted_shiftRight mantissa (excess mantissa exponent)).mantissa
  rw [exponents, mantissas]
  rcases bounded.lt_or_eq with below | rfl
  · rw [excess_eq_zero below least, pow_zero, Nat.div_one, Nat.cast_zero,
      add_zero]
    exact ⟨⟨below, least, normal⟩, rfl⟩
  · rw [excess_carry least]
    constructor
    · constructor
      · norm_num
      · omega
      · left
        norm_num
    · norm_num [number]
      ring

theorem Canonical.number_eq_zero {exponent : ℤ}
    (canonical : Canonical 0 exponent) : number 0 exponent = 0 := by
  rcases canonical.normal with full | least
  · norm_num at full
  · rw [least]
    rfl

/-- A canonical significand gives the point of the grid with its number. -/
theorem Canonical.onGrid {mantissa : ℕ} {exponent : ℤ}
    (canonical : Canonical mantissa exponent) :
    OnGrid (number mantissa exponent)
      (if zero : mantissa = 0 then .zero .positive
        else
          .finite .positive mantissa exponent (Nat.pos_of_ne_zero zero)) := by
  split_ifs with zero
  · subst zero
    rw [canonical.number_eq_zero]
    exact .zero
  · exact .finite canonical

/-- Rounding gives the grid point of the rounded value. -/
theorem onGrid_roundWithAccuracy {mantissa : ℕ} {exponent : ℤ}
    (positive : 0 < mantissa)
    (below : exponent ≤ place (magnitude mantissa exponent)) :
    OnGrid (gridNumber (magnitude mantissa exponent))
      (roundWithAccuracy .binary64 .positive mantissa exponent .exact) := by
  have above := magnitude_pos positive exponent
  have least : -1074 ≤ place (magnitude mantissa exponent) :=
    least_le_lastPlace 52 (-1074)
  have bounded := rounded_le 52 (-1074) (magnitude mantissa exponent)
  have normal := le_rounded 52 (-1074) above
  let first := shiftToTargetExponent .binary64 mantissa exponent .exact
  rcases first_shift positive below with ⟨exponents, rounded⟩
  rw [← rounded] at bounded normal
  have numbered :
      gridNumber (magnitude mantissa exponent) =
        number first.1.roundedMantissa first.2 := by
    show (place (magnitude mantissa exponent) - -1074) * 2 ^ 52 +
      roundHalfEven (magnitude mantissa exponent /
        2 ^ place (magnitude mantissa exponent)) = _
    rw [← rounded, ← exponents, sub_neg_eq_add]
    rfl
  have inPlace :
      2 ^ 52 ≤ first.1.roundedMantissa ∨ first.2 = -1074 := by
    rcases least.lt_or_eq with higher | same
    · exact Or.inl (by exact_mod_cast normal higher)
    · exact Or.inr (exponents.trans same.symm)
  have second :=
    second_shift (by exact_mod_cast bounded) (exponents ▸ least) inPlace
  rw [numbered, ← second.2]
  exact second.1.onGrid

/-- A significand with more low bits for a lower exponent. -/
theorem magnitude_shiftLeft (mantissa : ℕ) (exponent : ℤ) (amount : ℕ) :
    magnitude (mantissa <<< amount) (exponent - amount) =
      magnitude mantissa exponent := by
  rw [magnitude, magnitude, Nat.shiftLeft_eq, zpow_sub₀ two_ne_zero,
    zpow_natCast]
  push_cast
  field_simp

/-- Rounding after the exponent has been lowered as far as is needed. -/
theorem onGrid_round {mantissa : ℕ} (positive : 0 < mantissa)
    (exponent : ℤ) :
    OnGrid (gridNumber (magnitude mantissa exponent))
      (round .binary64 .positive mantissa exponent) := by
  let amount :=
    (exponent -
      Format.binary64.targetExponent
        (totalExponent mantissa exponent)).toNat
  have same := magnitude_shiftLeft mantissa exponent amount
  have shifted : 0 < mantissa <<< amount := by
    rw [Nat.shiftLeft_eq]
    positivity
  have below :
      exponent - amount ≤
        place (magnitude (mantissa <<< amount) (exponent - amount)) := by
    rw [same, ← targetExponent_eq_place positive]
    omega
  rw [← same]
  exact onGrid_roundWithAccuracy shifted below

/-- The order of the points of the grid is that of their values. -/
theorem magnitude_le_of_number_le {mantissa mantissa' : ℕ}
    {exponent exponent' : ℤ} (first : Canonical mantissa exponent)
    (second : Canonical mantissa' exponent')
    (le : number mantissa exponent ≤ number mantissa' exponent') :
    magnitude mantissa exponent ≤ magnitude mantissa' exponent' := by
  have bounded := first.bounded
  have normal := second.normal
  have least := first.least
  have exponents : exponent ≤ exponent' := by
    have bounded' := second.bounded
    have normal' := first.normal
    have least' := second.least
    unfold number at le
    omega
  rcases exponents.lt_or_eq with lower | rfl
  · have full : 2 ^ 52 ≤ mantissa' := by omega
    calc
      magnitude mantissa exponent ≤ 2 ^ 53 * 2 ^ exponent := by
        apply mul_le_mul_of_nonneg_right _ (zpow_pos two_pos _).le
        exact_mod_cast bounded.le
      _ = 2 ^ 52 * 2 ^ (exponent + 1) := by
        rw [zpow_add_one₀ two_ne_zero]
        ring
      _ ≤ 2 ^ 52 * 2 ^ exponent' := by
        apply mul_le_mul_of_nonneg_left _ (by positivity)
        exact zpow_le_zpow_right₀ one_le_two lower
      _ ≤ magnitude mantissa' exponent' := by
        apply mul_le_mul_of_nonneg_right _ (zpow_pos two_pos _).le
        exact_mod_cast full
  · apply mul_le_mul_of_nonneg_right _ (zpow_pos two_pos _).le
    have mantissas : mantissa ≤ mantissa' := by
      unfold number at le
      omega
    exact_mod_cast mantissas

end Llgw.Foundation.FloatGrid
