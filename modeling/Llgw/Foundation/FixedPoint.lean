import Llgw.Foundation.Decimal
import Llgw.Foundation.Delimiters
import Llgw.Foundation.FloatGrid

/-!
# Numbers with a fixed number of places

A binary64 number is printed with a fixed number of places behind the point:
its exact value is rounded half to even to a multiple of the last place, and
the digits of that multiple are written with a sign, even in front of zero.
What is not a number is printed with its sign bit, which is given beside it.
What was printed is read back.
-/

namespace Llgw.Foundation.FixedPoint

open Float.Model
open Llgw.Foundation.Decimal
open Llgw.Foundation.Delimiters
open Llgw.Foundation.FloatGrid
open Llgw.Foundation.RoundingGrid

/-- A number with a fixed number of places, counted in units of the last. -/
inductive FixedNumber where
  | notANumber (negative : Bool)
  | infinity (negative : Bool)
  | finite (negative : Bool) (units : ℕ)
deriving DecidableEq

/-! ## Rounding -/

/-- A magnitude as a number of units of the last place. -/
def unitsOf (places mantissa : ℕ) (exponent : ℤ) : ℕ :=
  (roundHalfEven (10 ^ places * magnitude mantissa exponent)).toNat

/--
A number, rounded to a fixed number of places.  The sign bit is used for what
is not a number.
-/
def rounded (places : ℕ) (signBit : Bool) : UnpackedFloat → FixedNumber
  | .notANumber => .notANumber signBit
  | .infinity sign => .infinity (sign == .negative)
  | .zero sign => .finite (sign == .negative) 0
  | .finite sign mantissa exponent _ =>
      .finite (sign == .negative) (unitsOf places mantissa exponent)

/-- Rounding moves a value by half a unit at most. -/
theorem abs_roundHalfEven_sub_le (value : ℚ) :
    |(roundHalfEven value : ℚ) - value| ≤ 1 / 2 := by
  have parts := Int.self_sub_floor value
  rcases lt_trichotomy (Int.fract value) (1 / 2) with low | tie | high
  · rw [roundHalfEven_of_lt low, abs_le]
    have nonneg := Int.fract_nonneg value
    constructor <;> linarith
  · rw [roundHalfEven_of_eq tie, abs_le]
    rcases Int.emod_two_eq_zero_or_one ⌊value⌋ with even | odd
    · rw [even, add_zero]
      constructor <;> linarith
    · rw [odd]
      push_cast
      constructor <;> linarith
  · rw [roundHalfEven_of_gt high, abs_le]
    have below := Int.fract_lt_one value
    push_cast
    constructor <;> linarith

theorem abs_unitsOf_sub_le (places mantissa : ℕ) (exponent : ℤ) :
    |(unitsOf places mantissa exponent : ℚ) -
      10 ^ places * magnitude mantissa exponent| ≤ 1 / 2 := by
  have nonneg : 0 ≤ 10 ^ places * magnitude mantissa exponent := by
    unfold magnitude
    positivity
  have units :
      ((unitsOf places mantissa exponent : ℤ) : ℚ) =
        roundHalfEven (10 ^ places * magnitude mantissa exponent) := by
    rw [unitsOf, Int.toNat_of_nonneg]
    exact (Int.floor_nonneg.mpr nonneg).trans (floor_le_roundHalfEven _)
  rw [← Int.cast_natCast, units]
  exact abs_roundHalfEven_sub_le _

/-! ## Printing -/

/-- The last digits of a number, with leading zeros. -/
def lastDigits : ℕ → ℕ → List UInt8
  | 0, _ => []
  | places + 1, number =>
      lastDigits places (number / 10) ++ [digitByte (number % 10)]

/-- A minus sign, or nothing. -/
def printSign (negative : Bool) : List UInt8 :=
  if negative then [45] else []

/-- The word for what is not a number. -/
def notANumberWord : List UInt8 := [110, 97, 110]

/-- The word for what is larger than every number. -/
def infinityWord : List UInt8 := [105, 110, 102]

/-- A number as it is printed. -/
def print (places : ℕ) : FixedNumber → List UInt8
  | .notANumber negative => printSign negative ++ notANumberWord
  | .infinity negative => printSign negative ++ infinityWord
  | .finite negative units =>
      printSign negative ++
        (numeral (units / 10 ^ places) ++
          46 :: lastDigits places (units % 10 ^ places))

theorem length_lastDigits (places number : ℕ) :
    (lastDigits places number).length = places := by
  induction places generalizing number with
  | zero => rfl
  | succ places induction =>
      rw [lastDigits, List.length_append, induction, List.length_singleton]

theorem mem_lastDigits {places number : ℕ} {byte : UInt8}
    (member : byte ∈ lastDigits places number) :
    48 ≤ byte ∧ byte ≤ 57 := by
  induction places generalizing number with
  | zero => contradiction
  | succ places induction =>
      rcases List.mem_append.mp member with front | last
      · exact induction front
      · rw [List.mem_singleton.mp last]
        exact digitByte_bounds (Nat.mod_lt _ (by omega))

/-- Digits behind others spell the same number as with leading zeros. -/
theorem value_append_lastDigits (front : List UInt8) {places number : ℕ}
    (small : number < 10 ^ places) :
    value (front ++ lastDigits places number) =
      value front * 10 ^ places + number := by
  induction places generalizing number with
  | zero =>
      rw [pow_zero, Nat.lt_one_iff] at small
      rw [lastDigits, List.append_nil, small, pow_zero, Nat.mul_one,
        Nat.add_zero]
  | succ places induction =>
      have fewer : number / 10 < 10 ^ places := by
        rw [Nat.div_lt_iff_lt_mul (by omega), ← pow_succ]
        exact small
      have digit := digitByte_toNat (Nat.mod_lt number (by omega : 0 < 10))
      have parts := Nat.div_add_mod number 10
      rw [lastDigits, ← List.append_assoc, value_concat, induction fewer,
        digit, Nat.add_sub_cancel_left, pow_succ]
      ring_nf
      omega

/-- Nothing is printed but digits, letters, a point and a minus sign. -/
theorem mem_print {places : ℕ} {number : FixedNumber} {byte : UInt8}
    (member : byte ∈ print places number) : 45 ≤ byte := by
  have sign {negative : Bool} (member : byte ∈ printSign negative) :
      45 ≤ byte := by
    cases negative with
    | false => contradiction
    | true => rw [List.mem_singleton.mp member]; decide
  have digit (bounds : 48 ≤ byte ∧ byte ≤ 57) : 45 ≤ byte :=
    UInt8.le_trans (by decide) bounds.1
  have letters : ∀ letter ∈ notANumberWord ++ infinityWord, 45 ≤ letter := by
    simp [notANumberWord, infinityWord]
  cases number with
  | notANumber negative =>
      rcases List.mem_append.mp member with minus | word
      · exact sign minus
      · exact letters byte (List.mem_append_left _ word)
  | infinity negative =>
      rcases List.mem_append.mp member with minus | word
      · exact sign minus
      · exact letters byte (List.mem_append_right _ word)
  | finite negative units =>
      rcases List.mem_append.mp member with minus | digits
      · exact sign minus
      · rcases List.mem_append.mp digits with whole | rest
        · exact digit (mem_numeral whole)
        · rcases List.mem_cons.mp rest with rfl | fraction
          · decide
          · exact digit (mem_lastDigits fraction)

/-! ## Reading back -/

/-- A magnitude that was printed. -/
def readMagnitude (places : ℕ) (negative : Bool) (digits : List UInt8) :
    Option FixedNumber :=
  let whole := digits.takeWhile (· ≠ 46)
  let fraction := (digits.dropWhile (· ≠ 46)).drop 1
  if digits = notANumberWord then some (.notANumber negative)
  else if digits = infinityWord then some (.infinity negative)
  else if whole ≠ [] ∧ fraction.length = places ∧
      ∀ byte ∈ whole ++ fraction, 48 ≤ byte ∧ byte ≤ 57 then
    some (.finite negative (value (whole ++ fraction)))
  else none

/-- A number that was printed. -/
def read (places : ℕ) (content : List UInt8) : Option FixedNumber :=
  if content.head? = some 45 then
    readMagnitude places true content.tail
  else readMagnitude places false content

theorem readMagnitude_notANumber (places : ℕ) (negative : Bool) :
    readMagnitude places negative notANumberWord =
      some (.notANumber negative) := by
  rw [readMagnitude, if_pos rfl]

theorem readMagnitude_infinity (places : ℕ) (negative : Bool) :
    readMagnitude places negative infinityWord =
      some (.infinity negative) := by
  rw [readMagnitude, if_neg (by decide), if_pos rfl]

theorem readMagnitude_finite (places : ℕ) (negative : Bool) (units : ℕ) :
    readMagnitude places negative
        (numeral (units / 10 ^ places) ++
          46 :: lastDigits places (units % 10 ^ places)) =
      some (.finite negative units) := by
  have point : 46 ∉ numeral (units / 10 ^ places) := by
    intro member
    exact absurd (mem_numeral member).1 (by decide)
  have digits :
      ∀ byte ∈ numeral (units / 10 ^ places) ++
          lastDigits places (units % 10 ^ places),
        48 ≤ byte ∧ byte ≤ 57 := by
    intro byte member
    rcases List.mem_append.mp member with whole | fraction
    · exact mem_numeral whole
    · exact mem_lastDigits fraction
  have small : units % 10 ^ places < 10 ^ places :=
    Nat.mod_lt _ (Nat.pow_pos (by omega))
  have other {word : List UInt8} (pointless : 46 ∉ word) :
      ¬ numeral (units / 10 ^ places) ++
          46 :: lastDigits places (units % 10 ^ places) =
        word := by
    rintro rfl
    exact pointless (List.mem_append_right _ List.mem_cons_self)
  simp only [readMagnitude]
  rw [takeWhile_append_cons point, dropWhile_append_cons point,
    List.drop_one, List.tail_cons, if_neg (other (by decide)),
    if_neg (other (by decide)),
    if_pos ⟨numeral_ne_nil _, length_lastDigits _ _, digits⟩,
    value_append_lastDigits _ small, value_numeral,
    Nat.mul_comm, Nat.div_add_mod]

/-- What begins with a digit has no sign. -/
theorem read_of_digit (places : ℕ) {digits rest : List UInt8}
    (filled : digits ≠ [])
    (bounds : ∀ byte ∈ digits, 48 ≤ byte ∧ byte ≤ 57) :
    read places (digits ++ rest) =
      readMagnitude places false (digits ++ rest) := by
  cases digits with
  | nil => contradiction
  | cons digit later =>
      rw [List.forall_mem_cons] at bounds
      have noSign : digit ≠ 45 := by
        rintro rfl
        exact absurd bounds.1.1 (by decide)
      rw [read, List.cons_append, if_neg (by simpa using noSign)]

/-- What was printed is read back. -/
theorem read_print (places : ℕ) (number : FixedNumber) :
    read places (print places number) = some number := by
  cases number with
  | notANumber negative =>
      cases negative with
      | false => exact readMagnitude_notANumber places false
      | true => exact readMagnitude_notANumber places true
  | infinity negative =>
      cases negative with
      | false => exact readMagnitude_infinity places false
      | true => exact readMagnitude_infinity places true
  | finite negative units =>
      cases negative with
      | true => exact readMagnitude_finite places true units
      | false =>
          rw [print, printSign, if_neg Bool.false_ne_true, List.nil_append,
            read_of_digit places (numeral_ne_nil _) fun _ => mem_numeral]
          exact readMagnitude_finite places false units

end Llgw.Foundation.FixedPoint
