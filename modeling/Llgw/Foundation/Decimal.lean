import Mathlib.Data.Nat.Digits.Defs

/-!
# Decimal numerals

The numeral of a natural number in ASCII digits, most significant first, and
the value of such a numeral.
-/

namespace Llgw.Foundation.Decimal

/-- The ASCII code of a digit. -/
def digitByte (digit : ℕ) : UInt8 :=
  48 + UInt8.ofNat digit

/-- The digits of a number; only zero has a leading zero. -/
def numeral (number : ℕ) : List UInt8 :=
  if number = 0 then [digitByte 0]
  else (Nat.digits 10 number).reverse.map digitByte

/-- The number that ASCII digits spell. -/
def value (digits : List UInt8) : ℕ :=
  digits.foldl (fun number byte => 10 * number + (byte.toNat - 48)) 0

theorem digitByte_toNat {digit : ℕ} (small : digit < 10) :
    (digitByte digit).toNat = 48 + digit := by
  rw [digitByte, UInt8.toNat_add, UInt8.toNat_ofNat']
  simp only [UInt8.reduceToNat]
  omega

/-- Reading digits is the evaluation of a polynomial in ten. -/
theorem value_reverse_map {digits : List ℕ}
    (small : ∀ digit ∈ digits, digit < 10) :
    value (digits.reverse.map digitByte) = Nat.ofDigits 10 digits := by
  rw [value, List.map_reverse, List.foldl_reverse]
  induction digits with
  | nil => rfl
  | cons digit digits induction =>
      rw [List.forall_mem_cons] at small
      rw [List.map_cons, List.foldr_cons, induction small.2,
        Nat.ofDigits_cons, digitByte_toNat small.1, Nat.add_sub_cancel_left,
        Nat.add_comm]

/-- A numeral spells the number that was printed. -/
@[simp]
theorem value_numeral (number : ℕ) : value (numeral number) = number := by
  unfold numeral
  split_ifs with zero
  · rw [zero]
    rfl
  · rw [value_reverse_map, Nat.ofDigits_digits]
    intro digit member
    exact Nat.digits_lt_base (by omega) member

theorem numeral_ne_nil (number : ℕ) : numeral number ≠ [] := by
  unfold numeral
  split_ifs with zero
  · exact List.cons_ne_nil _ _
  · simpa [Nat.digits_eq_nil_iff_eq_zero] using zero

/-- The code of a digit lies between those of zero and nine. -/
theorem digitByte_bounds {digit : ℕ} (small : digit < 10) :
    48 ≤ digitByte digit ∧ digitByte digit ≤ 57 := by
  have code := digitByte_toNat small
  constructor
  · rw [UInt8.le_iff_toNat_le, code]
    exact Nat.le_add_right 48 digit
  · rw [UInt8.le_iff_toNat_le, code]
    show 48 + digit ≤ 57
    omega

/-- A numeral has no byte but digits. -/
theorem mem_numeral {number : ℕ} {byte : UInt8}
    (member : byte ∈ numeral number) : 48 ≤ byte ∧ byte ≤ 57 := by
  unfold numeral at member
  split_ifs at member with zero
  · rw [List.mem_singleton.mp member]
    exact digitByte_bounds (by omega)
  · rcases List.mem_map.mp member with ⟨digit, found, rfl⟩
    apply digitByte_bounds
    exact Nat.digits_lt_base (by omega) (List.mem_reverse.mp found)

/-- One more digit makes ten times the number, and the digit. -/
theorem value_concat (digits : List UInt8) (byte : UInt8) :
    value (digits ++ [byte]) = 10 * value digits + (byte.toNat - 48) := by
  rw [value, List.foldl_append]
  rfl

end Llgw.Foundation.Decimal
