import Llgw.Foundation.FloatGrid
import Llgw.Foundation.FloatOrder

/-!
# Monotone arithmetic on binary64 numbers

The binary64 numbers other than NaN are ordered as integer keys, the signed
numbers of their grid points.  A product of positive numbers and a converted
natural number are rounded to the grid, so both operations are monotone.
-/

namespace Llgw.Foundation.FloatArithmetic

open Float.Model
open Float.Model.UnpackedFloat
open Llgw.Foundation.RoundingGrid
open Llgw.Foundation.FloatGrid

/-! ## Keys -/

/-- The number that follows the greatest point of the grid. -/
def infinityNumber : ℤ := 2047 * 2 ^ 52

/-- The place of a number in the order of all numbers but NaN. -/
def key : UnpackedFloat → ℤ
  | .notANumber => 0
  | .infinity sign => sign.apply infinityNumber
  | .zero _ => 0
  | .finite sign mantissa exponent _ =>
      sign.apply (number mantissa exponent)

/-- What the bits of a number can encode. -/
inductive Encoded : UnpackedFloat → Prop where
  | notANumber : Encoded .notANumber
  | infinity (sign : Sign) : Encoded (.infinity sign)
  | zero (sign : Sign) : Encoded (.zero sign)
  | finite {sign : Sign} {mantissa : ℕ} {exponent : ℤ}
      {positive : 0 < mantissa} (canonical : Canonical mantissa exponent)
      (bounded : exponent ≤ 971) :
      Encoded (.finite sign mantissa exponent positive)

/-! ## Comparison by keys -/

variable {mantissa other : ℕ} {exponent place : ℤ}

theorem number_pos (canonical : Canonical mantissa exponent)
    (positive : 0 < mantissa) : 0 < number mantissa exponent := by
  have least := canonical.least
  unfold number
  omega

theorem number_lt_infinity (canonical : Canonical mantissa exponent)
    (bounded : exponent ≤ 971) :
    number mantissa exponent < infinityNumber := by
  have significand := canonical.bounded
  unfold number infinityNumber
  omega

/-- A point of a lower binade has a lower number. -/
theorem number_lt_of_exponent_lt (first : Canonical mantissa exponent)
    (second : Canonical other place) (lower : exponent < place) :
    number mantissa exponent < number other place := by
  have bounded := first.bounded
  have least := first.least
  have full : 2 ^ 52 ≤ other := by
    rcases second.normal with full | bottom
    · exact full
    · omega
  unfold number
  omega

/-- The points of the grid are ordered by exponent and significand. -/
theorem compare_number (first : Canonical mantissa exponent)
    (second : Canonical other place) :
    (compare exponent place).then (compare mantissa other) =
      compare (number mantissa exponent) (number other place) := by
  rcases lt_trichotomy exponent place with lower | rfl | higher
  · rw [compare_lt_iff_lt.mpr lower,
      compare_lt_iff_lt.mpr (number_lt_of_exponent_lt first second lower)]
    rfl
  · rw [compare_eq_iff_eq.mpr rfl]
    show compare mantissa other = _
    rcases lt_trichotomy mantissa other with less | rfl | greater
    · rw [compare_lt_iff_lt.mpr less, compare_lt_iff_lt.mpr]
      unfold number
      omega
    · rw [compare_eq_iff_eq.mpr rfl, compare_eq_iff_eq.mpr rfl]
    · rw [compare_gt_iff_gt.mpr greater, compare_gt_iff_gt.mpr]
      unfold number
      omega
  · rw [compare_gt_iff_gt.mpr higher,
      compare_gt_iff_gt.mpr (number_lt_of_exponent_lt second first higher)]
    rfl

section Compare

variable {left right : UnpackedFloat}

private theorem lower {low high : ℤ} (lt : low < high) :
    some Ordering.lt = some (compare low high) :=
  congrArg some (compare_lt_iff_lt.mpr lt).symm

private theorem higher {low high : ℤ} (lt : low < high) :
    some Ordering.gt = some (compare high low) :=
  congrArg some (compare_gt_iff_gt.mpr lt).symm

private theorem same (middle : ℤ) :
    some Ordering.eq = some (compare middle middle) :=
  congrArg some (compare_eq_iff_eq.mpr rfl).symm

private theorem swap_compare (first second : ℤ) :
    (compare first second).swap = compare (-first) (-second) := by
  rcases lt_trichotomy first second with less | rfl | greater
  · rw [compare_lt_iff_lt.mpr less,
      compare_gt_iff_gt.mpr (neg_lt_neg less)]
    rfl
  · rw [compare_eq_iff_eq.mpr rfl, compare_eq_iff_eq.mpr rfl]
    rfl
  · rw [compare_gt_iff_gt.mpr greater,
      compare_lt_iff_lt.mpr (neg_lt_neg greater)]
    rfl

theorem compare_key_infinity (sign : Sign) (second : Encoded right)
    (rightNumber : right.isNaN = false) :
    (UnpackedFloat.infinity sign).compare right =
      some (compare (key (.infinity sign)) (key right)) := by
  have above : 0 < infinityNumber := by norm_num [infinityNumber]
  have opposite : -infinityNumber < infinityNumber := by omega
  cases second with
  | notANumber => contradiction
  | infinity other =>
      cases sign <;> cases other
      · exact same _
      · exact lower opposite
      · exact higher opposite
      · exact same _
  | zero other =>
      cases sign
      · exact lower (neg_neg_of_pos above)
      · exact higher above
  | @finite other mantissa exponent positive canonical bounded =>
      have low := number_pos canonical positive
      have high := number_lt_infinity canonical bounded
      cases sign <;> cases other
      · exact lower (neg_lt_neg high)
      · exact lower (by simp only [key, Sign.apply]; omega)
      · exact higher (by simp only [key, Sign.apply]; omega)
      · exact higher high

theorem compare_key_zero (sign : Sign) (second : Encoded right)
    (rightNumber : right.isNaN = false) :
    (UnpackedFloat.zero sign).compare right =
      some (compare (key (.zero sign)) (key right)) := by
  have above : 0 < infinityNumber := by norm_num [infinityNumber]
  cases second with
  | notANumber => contradiction
  | zero other => exact same 0
  | infinity other =>
      cases other
      · exact higher (neg_neg_of_pos above)
      · exact lower above
  | @finite other mantissa exponent positive canonical bounded =>
      have low := number_pos canonical positive
      cases other
      · exact higher (neg_neg_of_pos low)
      · exact lower low

theorem compare_key_finite {sign : Sign} {positive : 0 < mantissa}
    (canonical : Canonical mantissa exponent) (bounded : exponent ≤ 971)
    (second : Encoded right) (rightNumber : right.isNaN = false) :
    (UnpackedFloat.finite sign mantissa exponent positive).compare right =
      some
        (compare (key (.finite sign mantissa exponent positive))
          (key right)) := by
  have above := number_pos canonical positive
  have below := number_lt_infinity canonical bounded
  cases second with
  | notANumber => contradiction
  | zero other =>
      cases sign
      · exact lower (neg_neg_of_pos above)
      · exact higher above
  | infinity other =>
      cases sign <;> cases other
      · exact higher (neg_lt_neg below)
      · exact lower (by simp only [key, Sign.apply]; omega)
      · exact higher (by simp only [key, Sign.apply]; omega)
      · exact lower below
  | @finite other mantissa' exponent' positive' canonical' bounded' =>
      have above' := number_pos canonical' positive'
      cases sign <;> cases other
      · show some (Ordering.swap _) = _
        rw [compare_number canonical canonical', swap_compare]
        rfl
      · exact lower (by simp only [key, Sign.apply]; omega)
      · exact higher (by simp only [key, Sign.apply]; omega)
      · exact congrArg some (compare_number canonical canonical')

/-- Numbers other than NaN compare as their keys do. -/
theorem compare_key (first : Encoded left) (second : Encoded right)
    (leftNumber : left.isNaN = false) (rightNumber : right.isNaN = false) :
    left.compare right = some (compare (key left) (key right)) := by
  cases first with
  | notANumber => contradiction
  | infinity sign => exact compare_key_infinity sign second rightNumber
  | zero sign => exact compare_key_zero sign second rightNumber
  | finite canonical bounded =>
      exact compare_key_finite canonical bounded second rightNumber

end Compare

/-! ## Packing -/

/-- The number that is encoded by the fields of a packed number. -/
def ofFields (sign : Sign) (biased fraction : ℕ) : UnpackedFloat :=
  if biased = 2047 then
    if fraction = 0 then .infinity sign else .notANumber
  else if biased = 0 then
    if zero : fraction = 0 then .zero sign
    else .finite sign fraction (-1074) (Nat.pos_of_ne_zero zero)
  else
    .finite sign (2 ^ 52 + fraction) (biased - 1075)
      (Nat.add_pos_left (Nat.two_pow_pos 52) fraction)

theorem unpack_eq_ofFields (bits : BitVec Format.binary64.numBits) :
    UnpackedFloat.unpack .binary64 bits =
      ofFields (Sign.ofBitVec (unpackSign bits))
        (unpackExponent bits).toNat (unpackMantissa bits).toNat := by
  have allOnes :
      unpackExponent bits = -1#_ ↔ (unpackExponent bits).toNat = 2047 :=
    BitVec.toNat_inj.symm
  have noExponent :
      unpackExponent bits = 0#_ ↔ (unpackExponent bits).toNat = 0 :=
    BitVec.toNat_inj.symm
  have noFraction :
      unpackMantissa bits = 0#_ ↔ (unpackMantissa bits).toNat = 0 :=
    BitVec.toNat_inj.symm
  have implicit :
      (1#1 ++ unpackMantissa bits).toNat =
        2 ^ 52 + (unpackMantissa bits).toNat := by
    rw [BitVec.toNat_append,
      ← Nat.shiftLeft_add_eq_or_of_lt (unpackMantissa bits).isLt]
    rfl
  unfold UnpackedFloat.unpack ofFields
  simp only [allOnes, noExponent, noFraction, implicit]
  split_ifs with infinite zero subnormal
  · rfl
  · rfl
  · rfl
  · rw [subnormal]
    rfl
  · rfl

theorem encoded_ofFields (sign : Sign) {biased fraction : ℕ}
    (exponents : biased < 2 ^ 11) (fractions : fraction < 2 ^ 52) :
    Encoded (ofFields sign biased fraction) := by
  unfold ofFields
  split_ifs with _ _ subnormal
  · exact .infinity sign
  · exact .notANumber
  · exact .zero sign
  · apply Encoded.finite
    · constructor
      · omega
      · omega
      · exact Or.inr rfl
    · omega
  · apply Encoded.finite
    · constructor
      · omega
      · omega
      · left
        omega
    · omega

/-- The fields of a number that is not NaN are the digits of its key. -/
theorem key_ofFields (sign : Sign) {biased fraction : ℕ}
    (canonical : biased = 2047 → fraction = 0) :
    (ofFields sign biased fraction).isNaN = false ∧
      key (ofFields sign biased fraction) =
        sign.apply (biased * 2 ^ 52 + fraction) := by
  unfold ofFields
  split_ifs with infinite none subnormal zero
  · rw [infinite, none]
    exact ⟨rfl, rfl⟩
  · exact absurd (canonical infinite) none
  · rw [subnormal, zero]
    cases sign <;> exact ⟨rfl, rfl⟩
  · rw [subnormal]
    exact ⟨rfl, rfl⟩
  · constructor
    · rfl
    · show sign.apply (number (2 ^ 52 + fraction) (biased - 1075)) = _
      congr 1
      unfold number
      push_cast
      ring

theorem unpack_packComponents (sign : Sign)
    (exponent : BitVec Format.binary64.exponentBits)
    (fraction : BitVec Format.binary64.mantissaBitsWithoutImplicit) :
    UnpackedFloat.unpack .binary64
        (packComponents .binary64 sign exponent fraction) =
      ofFields sign exponent.toNat fraction.toNat := by
  rw [unpack_eq_ofFields, unpackSign_packComponents,
    Sign.ofBitVec_toBitVec, unpackExponent_packComponents,
    unpackMantissa_packComponents]

/-- How a point of the grid is packed. -/
theorem pack_finite {positive : 0 < mantissa} (sign : Sign) :
    UnpackedFloat.pack .binary64
        (.finite sign mantissa exponent positive) =
      if 2 ^ 11 ≤ (exponent + 1075).toNat + 1 then
        packComponents .binary64 sign (-1#_) 0
      else if mantissa.log2 + 1 = 53 then
        packComponents .binary64 sign
          (BitVec.ofNat _ (exponent + 1075).toNat) (BitVec.ofNat _ mantissa)
      else
        packComponents .binary64 sign 0#_ (BitVec.ofNat _ mantissa) := by
  have biased :
      exponent + (Format.binary64.exponentBias : ℤ) +
          (Format.binary64.mantissaBitsWithoutImplicit : ℤ) =
        exponent + 1075 := by
    have bias : (Format.binary64.exponentBias : ℤ) = 1023 := rfl
    have bits :
        (Format.binary64.mantissaBitsWithoutImplicit : ℤ) = 52 := rfl
    rw [bias, bits, add_assoc]
    rfl
  rw [← biased]
  rfl

/-- Fields below the infinities that have the digits of a number. -/
theorem key_ofFields_eq {biased fraction : ℕ} {value : ℤ}
    (finite : biased < 2047) (fractions : fraction < 2 ^ 52)
    (digits : value = biased * 2 ^ 52 + fraction) :
    (ofFields .positive biased fraction).isNaN = false ∧
      key (ofFields .positive biased fraction) =
        min value infinityNumber := by
  have fields :=
    key_ofFields .positive
      (show biased = 2047 → fraction = 0 from fun infinite =>
        absurd infinite finite.ne)
  have below : value ≤ infinityNumber := by
    unfold infinityNumber
    omega
  rw [min_eq_left below, digits]
  exact fields

section Points

variable (canonical : Canonical mantissa exponent)
include canonical

/-- A point beyond the largest exponent is packed as the infinity. -/
theorem number_ge_of_overflow
    (overflow : 2 ^ 11 ≤ (exponent + 1075).toNat + 1) :
    infinityNumber ≤ number mantissa exponent := by
  have full := canonical.normal
  unfold infinityNumber number
  omega

/-- A point with all its bits is packed without the leading one. -/
theorem key_unpack_normal
    (inside : ¬ 2 ^ 11 ≤ (exponent + 1075).toNat + 1)
    (full : 2 ^ 52 ≤ mantissa) :
    let packed :=
      UnpackedFloat.unpack .binary64
        (packComponents .binary64 .positive
          (BitVec.ofNat _ (exponent + 1075).toNat)
          (BitVec.ofNat _ mantissa))
    packed.isNaN = false ∧
      key packed = min (number mantissa exponent) infinityNumber := by
  intro packed
  have bounded := canonical.bounded
  have least := canonical.least
  have exponents :
      (BitVec.ofNat Format.binary64.exponentBits
        (exponent + 1075).toNat).toNat =
        (exponent + 1075).toNat :=
    Nat.mod_eq_of_lt (by show _ < 2 ^ 11; omega)
  have fractions :
      (BitVec.ofNat Format.binary64.mantissaBitsWithoutImplicit
        mantissa).toNat = mantissa - 2 ^ 52 := by
    show mantissa % 2 ^ 52 = _
    omega
  have fields :
      packed =
        ofFields .positive (exponent + 1075).toNat
          (mantissa - 2 ^ 52) := by
    rw [← exponents, ← fractions]
    exact unpack_packComponents _ _ _
  rw [fields]
  apply key_ofFields_eq
  · omega
  · omega
  · unfold number
    omega

/-- A point with fewer bits is packed with the exponent zero. -/
theorem key_unpack_subnormal (short : mantissa < 2 ^ 52) :
    let packed :=
      UnpackedFloat.unpack .binary64
        (packComponents .binary64 .positive 0
          (BitVec.ofNat _ mantissa))
    packed.isNaN = false ∧
      key packed = min (number mantissa exponent) infinityNumber := by
  intro packed
  have fractions :
      (BitVec.ofNat Format.binary64.mantissaBitsWithoutImplicit
        mantissa).toNat = mantissa :=
    Nat.mod_eq_of_lt short
  have fields : packed = ofFields .positive 0 mantissa := by
    rw [← fractions]
    exact unpack_packComponents _ _ _
  have lowest : exponent = -1074 := by
    rcases canonical.normal with full | lowest
    · omega
    · exact lowest
  rw [fields]
  apply key_ofFields_eq
  · omega
  · exact short
  · unfold number
    omega

end Points

/-- Packing a point of the grid keeps its number or overflows. -/
theorem key_unpack_pack {value : ℤ} {result : UnpackedFloat}
    (onGrid : OnGrid value result) :
    let packed :=
      UnpackedFloat.unpack .binary64
        (UnpackedFloat.pack .binary64 result)
    packed.isNaN = false ∧ key packed = min value infinityNumber := by
  intro packed
  cases onGrid with
  | zero => exact ⟨rfl, rfl⟩
  | @finite mantissa exponent positive canonical =>
      show (UnpackedFloat.unpack .binary64
          (UnpackedFloat.pack .binary64 _)).isNaN = false ∧
        key (UnpackedFloat.unpack .binary64
          (UnpackedFloat.pack .binary64 _)) = _
      rw [pack_finite]
      split_ifs with overflow normal
      · rw [unpack_packComponents,
          min_eq_right (number_ge_of_overflow canonical overflow)]
        exact ⟨rfl, rfl⟩
      · have full : 2 ^ 52 ≤ mantissa := by
          have log := Nat.log2_self_le positive.ne'
          rw [Nat.succ_injective normal] at log
          exact log
        exact key_unpack_normal canonical overflow full
      · have short : mantissa < 2 ^ 52 := by
          have bits := (Nat.log2_lt positive.ne').mpr canonical.bounded
          exact (Nat.log2_lt positive.ne').mp (by omega)
        exact key_unpack_subnormal canonical short

/-! ## Products of positive numbers -/

/-- The encoded numbers above zero. -/
inductive Positive : UnpackedFloat → Prop where
  | infinity : Positive (.infinity .positive)
  | finite {mantissa : ℕ} {exponent : ℤ} {positive : 0 < mantissa}
      (canonical : Canonical mantissa exponent)
      (bounded : exponent ≤ 971) :
      Positive (.finite .positive mantissa exponent positive)

theorem Encoded.positive {number : UnpackedFloat}
    (encoded : Encoded number) (above : 0 < key number) :
    Positive number := by
  have infinite : 0 < infinityNumber := by norm_num [infinityNumber]
  cases encoded with
  | notANumber | zero _ => exact absurd above (lt_irrefl 0)
  | infinity sign =>
      cases sign with
      | positive => exact .infinity
      | negative => exact absurd above (neg_neg_of_pos infinite).not_gt
  | @finite sign mantissa exponent positive canonical bounded =>
      cases sign with
      | positive => exact .finite canonical bounded
      | negative =>
          have low := number_pos canonical positive
          exact absurd above (neg_neg_of_pos low).not_gt

/-- The key of a product of positive numbers. -/
def productKey : UnpackedFloat → UnpackedFloat → ℤ
  | .finite _ mantissa exponent _, .finite _ mantissa' exponent' _ =>
      min
        (gridNumber
          (magnitude mantissa exponent * magnitude mantissa' exponent'))
        infinityNumber
  | _, _ => infinityNumber

theorem productKey_nonneg {left right : UnpackedFloat}
    (first : Positive left) (second : Positive right) :
    0 ≤ productKey left right := by
  have infinite : 0 ≤ infinityNumber := by norm_num [infinityNumber]
  cases first with
  | infinity => exact infinite
  | @finite mantissa exponent positive =>
      cases second with
      | infinity => exact infinite
      | @finite mantissa' exponent' positive' =>
          apply le_min _ infinite
          apply rank_nonneg
          exact
            mul_nonneg (magnitude_pos positive exponent).le
              (magnitude_pos positive' exponent').le

theorem productKey_le (left right : UnpackedFloat) :
    productKey left right ≤ infinityNumber := by
  unfold productKey
  split
  · exact min_le_right _ _
  · exact le_rfl

/-- The product of two values in terms of their significands. -/
theorem magnitude_mul (mantissa mantissa' : ℕ) (exponent exponent' : ℤ) :
    magnitude (mantissa * mantissa') (exponent + exponent') =
      magnitude mantissa exponent * magnitude mantissa' exponent' := by
  rw [magnitude, magnitude, magnitude, zpow_add₀ two_ne_zero]
  push_cast
  ring

/-- A product of two points of the grid has no exponent above its place. -/
theorem product_exponent_le {mantissa mantissa' : ℕ}
    {exponent exponent' : ℤ} (first : Canonical mantissa exponent)
    (second : Canonical mantissa' exponent')
    (positive : 0 < mantissa) (positive' : 0 < mantissa') :
    exponent + exponent' ≤
      FloatGrid.place
        (magnitude (mantissa * mantissa') (exponent + exponent')) := by
  have product := Nat.mul_pos positive positive'
  rw [FloatGrid.place, lastPlace, log_magnitude product]
  rcases first.normal with full | lowest
  · have bits : 52 ≤ (mantissa * mantissa').log2 := by
      rw [Nat.le_log2 product.ne']
      exact full.trans (Nat.le_mul_of_pos_right mantissa positive')
    apply le_max_of_le_left
    push_cast
    omega
  · rcases second.normal with full | lowest'
    · have bits : 52 ≤ (mantissa * mantissa').log2 := by
        rw [Nat.le_log2 product.ne']
        exact full.trans (Nat.le_mul_of_pos_left mantissa' positive)
      apply le_max_of_le_left
      push_cast
      omega
    · apply le_max_of_le_right
      omega

theorem key_unpack_pack_infinity :
    let packed :=
      UnpackedFloat.unpack .binary64
        (UnpackedFloat.pack .binary64 (.infinity .positive))
    packed.isNaN = false ∧ key packed = infinityNumber :=
  ⟨rfl, rfl⟩

/-- A product of positive numbers is its exact value rounded to the grid. -/
theorem key_mul {left right : UnpackedFloat} (first : Positive left)
    (second : Positive right) :
    let product :=
      UnpackedFloat.unpack .binary64
        (UnpackedFloat.pack .binary64
          (UnpackedFloat.mul .binary64 left right))
    product.isNaN = false ∧ key product = productKey left right := by
  cases first with
  | infinity =>
      cases second with
      | infinity | finite _ _ => exact key_unpack_pack_infinity
  | @finite mantissa exponent positive canonical =>
      cases second with
      | infinity => exact key_unpack_pack_infinity
      | @finite mantissa' exponent' positive' canonical' =>
          have rounded :=
            onGrid_roundWithAccuracy (Nat.mul_pos positive positive')
              (product_exponent_le canonical canonical' positive positive')
          rw [magnitude_mul] at rounded
          exact key_unpack_pack rounded

/-- Products of positive numbers are ordered as their factors are. -/
theorem productKey_mono {left left' right right' : UnpackedFloat}
    (first : Positive left) (first' : Positive left')
    (second : Positive right) (second' : Positive right')
    (le : key left ≤ key left') (le' : key right ≤ key right') :
    productKey left right ≤ productKey left' right' := by
  cases first' with
  | infinity => exact productKey_le left right
  | finite canonical bounded =>
      have below := number_lt_infinity canonical bounded
      cases second' with
      | infinity => exact productKey_le left right
      | finite canonical' bounded' =>
          have below' := number_lt_infinity canonical' bounded'
          cases first with
          | infinity => exact absurd (le.trans_lt below) (lt_irrefl _)
          | @finite _ exponent positive least =>
              cases second with
              | infinity => exact absurd (le'.trans_lt below') (lt_irrefl _)
              | @finite _ exponent' positive' least' =>
                  have lefts := magnitude_le_of_number_le least canonical le
                  have rights :=
                    magnitude_le_of_number_le least' canonical' le'
                  have above := magnitude_pos positive exponent
                  have above' := magnitude_pos positive' exponent'
                  apply min_le_min_right
                  apply rank_mono
                  · exact mul_pos above above'
                  · exact
                      mul_le_mul lefts rights above'.le
                        (above.le.trans lefts)

/-! ## The order of numbers -/

/-- The key of a number. -/
def floatKey (number : Float) : ℤ :=
  key number.toModel.unpack

theorem encoded_unpack (number : Float) :
    Encoded number.toModel.unpack := by
  show Encoded (UnpackedFloat.unpack .binary64 _)
  rw [unpack_eq_ofFields]
  exact encoded_ofFields _ (BitVec.isLt _) (BitVec.isLt _)

variable {left right : Float}

theorem comparison_eq_compare (leftNumber : ¬ left.isNaN = true)
    (rightNumber : ¬ right.isNaN = true) :
    FloatOrder.comparison left right =
      some (compare (floatKey left) (floatKey right)) :=
  compare_key (encoded_unpack left) (encoded_unpack right)
    (Bool.eq_false_of_not_eq_true leftNumber)
    (Bool.eq_false_of_not_eq_true rightNumber)

theorem lt_iff_floatKey :
    left < right ↔
      ¬ left.isNaN = true ∧ ¬ right.isNaN = true ∧
        floatKey left < floatKey right := by
  constructor
  · intro less
    have leftNumber : ¬ left.isNaN = true := fun notANumber =>
      FloatOrder.not_lt_of_isNaN (Or.inl notANumber) less
    have rightNumber : ¬ right.isNaN = true := fun notANumber =>
      FloatOrder.not_lt_of_isNaN (Or.inr notANumber) less
    rw [FloatOrder.lt_iff,
      comparison_eq_compare leftNumber rightNumber] at less
    exact
      ⟨leftNumber, rightNumber,
        compare_lt_iff_lt.mp (Option.some.inj less)⟩
  · rintro ⟨leftNumber, rightNumber, less⟩
    rw [FloatOrder.lt_iff, comparison_eq_compare leftNumber rightNumber,
      compare_lt_iff_lt.mpr less]

theorem le_iff_floatKey :
    left ≤ right ↔
      ¬ left.isNaN = true ∧ ¬ right.isNaN = true ∧
        floatKey left ≤ floatKey right := by
  constructor
  · intro le
    have leftNumber : ¬ left.isNaN = true := fun notANumber =>
      FloatOrder.not_le_of_isNaN (Or.inl notANumber) le
    have rightNumber : ¬ right.isNaN = true := fun notANumber =>
      FloatOrder.not_le_of_isNaN (Or.inr notANumber) le
    have notGreater : ¬ right < left := fun less =>
      FloatOrder.not_le_of_lt less le
    rw [lt_iff_floatKey] at notGreater
    exact
      ⟨leftNumber, rightNumber,
        not_lt.mp fun less => notGreater ⟨rightNumber, leftNumber, less⟩⟩
  · rintro ⟨leftNumber, rightNumber, le⟩
    apply FloatOrder.le_of_not_lt leftNumber rightNumber
    intro less
    exact absurd (lt_iff_floatKey.mp less).2.2 (not_lt.mpr le)

theorem lt_of_lt_of_le {middle : Float} (less : left < middle)
    (le : middle ≤ right) : left < right := by
  rw [lt_iff_floatKey] at less ⊢
  rw [le_iff_floatKey] at le
  exact ⟨less.1, le.2.1, less.2.2.trans_le le.2.2⟩

theorem lt_of_le_of_lt {middle : Float} (le : left ≤ middle)
    (less : middle < right) : left < right := by
  rw [lt_iff_floatKey] at less ⊢
  rw [le_iff_floatKey] at le
  exact ⟨le.1, less.2.1, le.2.2.trans_lt less.2.2⟩

theorem le_of_lt (less : left < right) : left ≤ right := by
  rw [lt_iff_floatKey] at less
  rw [le_iff_floatKey]
  exact ⟨less.1, less.2.1, less.2.2.le⟩

theorem floatKey_zero : floatKey 0.0 = 0 := by
  decide +kernel

theorem floatKey_infinity :
    floatKey FloatOrder.infinity = infinityNumber := by
  rw [floatKey, FloatOrder.unpack_infinity]
  rfl

/-- A positive number has the form of one. -/
theorem positive_unpack {number : Float} (above : 0.0 < number) :
    Positive number.toModel.unpack := by
  apply (encoded_unpack number).positive
  have keys := (lt_iff_floatKey.mp above).2.2
  rw [floatKey_zero] at keys
  exact keys

/-- A number between zero and a finite number is finite. -/
theorem isFinite_of_le (nonneg : 0.0 ≤ left) (le : left ≤ right)
    (finite : right.isFinite = true) : left.isFinite = true := by
  have number := (le_iff_floatKey.mp nonneg).2.1
  have above := (le_iff_floatKey.mp nonneg).2.2
  have below : floatKey left < infinityNumber := by
    rw [← floatKey_infinity]
    exact
      (le_iff_floatKey.mp le).2.2.trans_lt
        (lt_iff_floatKey.mp (FloatOrder.lt_infinity finite)).2.2
  rw [floatKey_zero] at above
  unfold floatKey at above below
  show left.toModel.unpack.isFinite = true
  cases unpacked : left.toModel.unpack with
  | zero _ | finite _ _ _ _ => rfl
  | notANumber =>
      exact absurd (congrArg UnpackedFloat.isNaN unpacked) number
  | infinity sign =>
      rw [unpacked] at above below
      cases sign with
      | positive => exact absurd below (lt_irrefl _)
      | negative => exact absurd above (by decide)

/-! ## Monotone operations -/

/-- The product is monotone in its positive factors. -/
theorem mul_le_mul {factor factor' : Float} (above : 0.0 < left)
    (le : left ≤ right) (above' : 0.0 < factor) (le' : factor ≤ factor') :
    left * factor ≤ right * factor' := by
  have first := positive_unpack above
  have first' := positive_unpack (lt_of_lt_of_le above le)
  have second := positive_unpack above'
  have second' := positive_unpack (lt_of_lt_of_le above' le')
  rcases key_mul first second with ⟨number, product⟩
  rcases key_mul first' second' with ⟨number', product'⟩
  rw [le_iff_floatKey]
  refine ⟨Bool.eq_false_iff.mp number, Bool.eq_false_iff.mp number', ?_⟩
  calc
    floatKey (left * factor) =
        productKey left.toModel.unpack factor.toModel.unpack := product
    _ ≤ productKey right.toModel.unpack factor'.toModel.unpack :=
      productKey_mono first first' second second'
        (le_iff_floatKey.mp le).2.2 (le_iff_floatKey.mp le').2.2
    _ = floatKey (right * factor') := product'.symm

theorem mul_nonneg_of_pos {factor : Float} (above : 0.0 < left)
    (above' : 0.0 < factor) : 0.0 ≤ left * factor := by
  have first := positive_unpack above
  have second := positive_unpack above'
  rcases key_mul first second with ⟨number, product⟩
  rw [le_iff_floatKey, floatKey_zero]
  refine ⟨by decide, Bool.eq_false_iff.mp number, ?_⟩
  exact (productKey_nonneg first second).trans_eq product.symm

/-- A positive natural number is rounded to the grid when it is converted. -/
theorem key_toFloat {number : UInt32} (above : 0 < number.toNat) :
    number.toFloat.isNaN = false ∧
      floatKey number.toFloat =
        min (gridNumber (magnitude number.toNat 0)) infinityNumber := by
  have rounded := onGrid_round above 0
  have converted :
      UnpackedFloat.ofUInt32 .binary64 number =
        UnpackedFloat.round .binary64 .positive number.toNat 0 := by
    show UnpackedFloat.normalize .binary64 (number.toNat : ℤ) 0 .positive = _
    have greater : compare (number.toNat : ℤ) 0 = .gt :=
      compare_gt_iff_gt.mpr (Int.natCast_pos.mpr above)
    rw [UnpackedFloat.normalize, greater]
    rfl
  rw [← converted] at rounded
  exact key_unpack_pack rounded

/-- The conversion of positive numbers is monotone. -/
theorem toFloat_le_toFloat {first second : UInt32} (above : 0 < first)
    (le : first ≤ second) : first.toFloat ≤ second.toFloat := by
  have positive : 0 < first.toNat := UInt32.lt_iff_toNat_lt.mp above
  have values : first.toNat ≤ second.toNat := UInt32.le_iff_toNat_le.mp le
  rcases key_toFloat positive with ⟨number, key⟩
  rcases key_toFloat (positive.trans_le values) with ⟨number', key'⟩
  rw [le_iff_floatKey, key, key']
  refine ⟨Bool.eq_false_iff.mp number, Bool.eq_false_iff.mp number', ?_⟩
  apply min_le_min_right
  apply rank_mono
  · exact magnitude_pos positive 0
  · apply mul_le_mul_of_nonneg_right _ (zpow_pos two_pos _).le
    exact_mod_cast values

theorem toFloat_pos {number : UInt32} (above : 0 < number) :
    0.0 < number.toFloat := by
  have one : 1 ≤ number := by
    rw [UInt32.le_iff_toNat_le]
    exact UInt32.lt_iff_toNat_lt.mp above
  have positive : (0.0 : Float) < (1 : UInt32).toFloat := by
    decide +kernel
  exact lt_of_lt_of_le positive (toFloat_le_toFloat (by decide) one)

end Llgw.Foundation.FloatArithmetic
