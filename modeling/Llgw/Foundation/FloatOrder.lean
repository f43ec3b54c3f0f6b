import Mathlib.Order.Compare

/-!
# Order and classes of binary64 numbers

Comparisons of `Float` follow IEEE 754, so neither `<` nor `≤` is total.
This module reduces them to the comparison of the unpacked model and proves
the facts that hold outside NaN.
-/

namespace Llgw.Foundation.FloatOrder

open Float.Model

/-! ## Comparison of unpacked numbers -/

theorem compare_eq_none_iff (left right : UnpackedFloat) :
    left.compare right = none ↔
      left.isNaN = true ∨ right.isNaN = true := by
  have decided (outcome : Ordering) :
      some outcome = none ↔ false = true ∨ false = true := by
    simp
  cases left with
  | notANumber => exact iff_of_true rfl (Or.inl rfl)
  | infinity sign =>
      cases right with
      | notANumber => cases sign <;> exact iff_of_true rfl (Or.inr rfl)
      | infinity other => cases sign <;> cases other <;> exact decided _
      | zero _ | finite _ _ _ _ => cases sign <;> exact decided _
  | zero sign =>
      cases right with
      | notANumber => exact iff_of_true rfl (Or.inr rfl)
      | zero _ => exact decided _
      | infinity other | finite other _ _ _ =>
          cases other <;> exact decided _
  | finite sign mantissa exponent positive =>
      cases right with
      | notANumber => cases sign <;> exact iff_of_true rfl (Or.inr rfl)
      | zero _ => cases sign <;> exact decided _
      | infinity other | finite other _ _ _ =>
          cases sign <;> cases other <;> exact decided _

/-- Exchanging the magnitudes exchanges the outcome. -/
theorem magnitude_swap (first second : Int) (left right : Nat) :
    (compare second first).then (compare right left) =
      ((compare first second).then (compare left right)).swap := by
  have exponents : compare second first = (compare first second).swap :=
    Std.OrientedCmp.eq_swap
  have mantissas : compare right left = (compare left right).swap :=
    Std.OrientedCmp.eq_swap
  rw [Ordering.swap_then, exponents, mantissas]

/-- Exchanging the sides of a comparison exchanges its outcome. -/
theorem compare_swap (left right : UnpackedFloat) :
    right.compare left = (left.compare right).map Ordering.swap := by
  cases left with
  | notANumber =>
      cases right with
      | infinity other | finite other _ _ _ => cases other <;> rfl
      | notANumber | zero _ => rfl
  | infinity sign =>
      cases right with
      | infinity other => cases sign <;> cases other <;> rfl
      | notANumber | zero _ | finite _ _ _ _ => cases sign <;> rfl
  | zero sign =>
      cases right with
      | infinity other | finite other _ _ _ => cases other <;> rfl
      | notANumber | zero _ => rfl
  | finite sign mantissa exponent positive =>
      cases right with
      | notANumber | zero _ => cases sign <;> rfl
      | infinity other => cases sign <;> cases other <;> rfl
      | finite other mantissa' exponent' positive' =>
          cases sign <;> cases other
          case positive.positive =>
            exact congrArg some (magnitude_swap _ _ _ _)
          case negative.negative =>
            exact
              congrArg (fun outcome => some outcome.swap)
                (magnitude_swap _ _ _ _)
          all_goals rfl

/-! ## Comparison of numbers -/

variable {left right : Float}

/-- The outcome of comparing two numbers, `none` if one of them is NaN. -/
def comparison (left right : Float) : Option Ordering :=
  left.toModel.unpack.compare right.toModel.unpack

theorem lt_iff : left < right ↔ comparison left right = some .lt := by
  have unfolded :
      left < right ↔
        UnpackedFloat.lt left.toModel.unpack right.toModel.unpack = true :=
    decide_eq_true_iff
  rw [unfolded, UnpackedFloat.lt, beq_iff_eq]
  rfl

theorem le_iff :
    left ≤ right ↔
      comparison left right = some .lt ∨ comparison left right = some .eq := by
  have unfolded :
      left ≤ right ↔
        UnpackedFloat.le left.toModel.unpack right.toModel.unpack = true :=
    decide_eq_true_iff
  rw [unfolded, UnpackedFloat.le, ← comparison]
  rcases comparison left right with _ | (_ | _ | _) <;> simp

theorem comparison_eq_none_iff :
    comparison left right = none ↔
      left.isNaN = true ∨ right.isNaN = true :=
  compare_eq_none_iff _ _

theorem comparison_swap :
    comparison right left = (comparison left right).map Ordering.swap :=
  compare_swap _ _

/-- Outside NaN, what is not less is at least as great. -/
theorem le_of_not_lt (leftNumber : ¬ left.isNaN = true)
    (rightNumber : ¬ right.isNaN = true) (notLess : ¬ right < left) :
    left ≤ right := by
  have number : comparison left right ≠ none := by
    rw [Ne, comparison_eq_none_iff]
    exact not_or.mpr ⟨leftNumber, rightNumber⟩
  rw [lt_iff, comparison_swap] at notLess
  rw [le_iff]
  rcases outcome : comparison left right with _ | (_ | _ | _)
  · contradiction
  · exact Or.inl rfl
  · exact Or.inr rfl
  · rw [outcome] at notLess
    exact absurd rfl notLess

/-- Outside NaN, what is not at most is greater. -/
theorem lt_of_not_le (leftNumber : ¬ left.isNaN = true)
    (rightNumber : ¬ right.isNaN = true) (notAtMost : ¬ right ≤ left) :
    left < right := by
  have number : comparison left right ≠ none := by
    rw [Ne, comparison_eq_none_iff]
    exact not_or.mpr ⟨leftNumber, rightNumber⟩
  rw [le_iff, comparison_swap] at notAtMost
  rw [lt_iff]
  rcases outcome : comparison left right with _ | (_ | _ | _)
  · contradiction
  · rfl
  · rw [outcome] at notAtMost
    exact absurd (Or.inr rfl) notAtMost
  · rw [outcome] at notAtMost
    exact absurd (Or.inl rfl) notAtMost

theorem not_le_of_lt (less : left < right) : ¬ right ≤ left := by
  rw [lt_iff] at less
  rw [le_iff, comparison_swap, less]
  simp

theorem not_lt_of_isNaN
    (notANumber : left.isNaN = true ∨ right.isNaN = true) :
    ¬ left < right := by
  rw [lt_iff, comparison_eq_none_iff.mpr notANumber]
  simp

theorem not_le_of_isNaN
    (notANumber : left.isNaN = true ∨ right.isNaN = true) :
    ¬ left ≤ right := by
  rw [le_iff, comparison_eq_none_iff.mpr notANumber]
  simp

theorem not_isNaN_of_isFinite {number : Float}
    (finite : number.isFinite = true) : ¬ number.isNaN = true := by
  have classes :
      number.toModel.unpack.isFinite = true →
        ¬ number.toModel.unpack.isNaN = true := by
    cases number.toModel.unpack with
    | finite _ _ _ _ | zero _ => exact fun _ => Bool.false_ne_true
    | infinity _ | notANumber =>
        exact fun finite => absurd finite Bool.false_ne_true
  exact classes finite

/-! ## Infinity -/

/-- Positive infinity. -/
def infinity : Float := .ofBits 0x7FF0000000000000

theorem unpack_infinity :
    infinity.toModel.unpack = .infinity .positive := rfl

/-- Every finite number is below infinity. -/
theorem lt_infinity {number : Float} (finite : number.isFinite = true) :
    number < infinity := by
  rw [lt_iff, comparison, unpack_infinity]
  have classes :
      number.toModel.unpack.isFinite = true →
        number.toModel.unpack.compare (.infinity .positive) = some .lt := by
    cases number.toModel.unpack with
    | finite sign _ _ _ => cases sign <;> exact fun _ => rfl
    | zero _ => exact fun _ => rfl
    | infinity _ | notANumber =>
        exact fun finite => absurd finite Bool.false_ne_true
  exact classes finite

/-- Nothing is above infinity. -/
theorem not_infinity_lt (number : Float) : ¬ infinity < number := by
  rw [lt_iff, comparison, unpack_infinity]
  have greater : ¬ some Ordering.gt = some .lt := by simp
  have equal : ¬ some Ordering.eq = some .lt := by simp
  have unordered : ¬ none = some Ordering.lt := by simp
  cases number.toModel.unpack with
  | infinity sign =>
      cases sign with
      | positive => exact equal
      | negative => exact greater
  | finite sign _ _ _ => cases sign <;> exact greater
  | zero _ => exact greater
  | notANumber => exact unordered

end Llgw.Foundation.FloatOrder
