import Llgw.Foundation.FloatArithmetic
import Llgw.RiskFailClosed

/-!
# Monotonicity of the risk check

A check with wider limits accepts every smaller order.  The notional of an
order is a rounded product, which may overflow to infinity: rounding is
monotone, so neither the rounding nor the overflow reverses an order of
notionals.  An empty allowlist is the widest one.
-/

namespace Llgw.RiskMonotone

open Llgw.Foundation
open Llgw.Messages
open Llgw.Risk
open Llgw.Risk.PreTradeRiskManager (notional)
open Llgw.RiskFailClosed

/-- Limits none of which is tighter; the comparison excludes NaN limits. -/
structure Wider (limits wider : RiskLimits) : Prop where
  quantity : limits.maxOrderQuantity ≤ wider.maxOrderQuantity
  notional : limits.maxOrderNotional ≤ wider.maxOrderNotional
  allowlist :
    effectiveAllowlist wider = [] ∨
      effectiveAllowlist limits ≠ [] ∧
        effectiveAllowlist limits ⊆ effectiveAllowlist wider

/-- An order for the same symbol with no larger price and quantity. -/
structure Smaller (smaller request : OrderRequest) : Prop where
  symbol : smaller.symbol.view = request.symbol.view
  pricePositive : 0.0 < smaller.price
  price : smaller.price ≤ request.price
  quantityPositive : 0 < smaller.quantity
  quantity : smaller.quantity ≤ request.quantity

variable {limits wider : RiskLimits} {request smaller : OrderRequest}

/-- A smaller order has no larger notional. -/
theorem Smaller.notional_le (less : Smaller smaller request) :
    notional smaller ≤ notional request := by
  apply FloatArithmetic.mul_le_mul less.pricePositive less.price
  · exact FloatArithmetic.toFloat_pos less.quantityPositive
  · exact
      FloatArithmetic.toFloat_le_toFloat less.quantityPositive less.quantity

/-- A product that overflows is not that of a smaller order alone. -/
theorem Smaller.notional_isFinite (less : Smaller smaller request)
    (finite : (notional request).isFinite = true) :
    (notional smaller).isFinite = true := by
  have nonneg : 0.0 ≤ notional smaller :=
    FloatArithmetic.mul_nonneg_of_pos less.pricePositive
      (FloatArithmetic.toFloat_pos less.quantityPositive)
  exact FloatArithmetic.isFinite_of_le nonneg less.notional_le finite

theorem Wider.allowed (wide : Wider limits wider)
    {symbol : ByteString}
    (allowed :
      effectiveAllowlist limits = [] ∨ symbol ∈ effectiveAllowlist limits) :
    effectiveAllowlist wider = [] ∨ symbol ∈ effectiveAllowlist wider := by
  rcases wide.allowlist with unrestricted | ⟨restricted, subset⟩
  · exact Or.inl unrestricted
  · rcases allowed with empty | member
    · contradiction
    · exact Or.inr (subset member)

theorem Smaller.withinOtherLimits (less : Smaller smaller request)
    (wide : Wider limits wider)
    (within : WithinOtherLimits limits request) :
    WithinOtherLimits wider smaller where
  symbol := less.symbol ▸ within.symbol
  finite :=
    FloatArithmetic.isFinite_of_le
      (FloatArithmetic.le_of_lt less.pricePositive) less.price within.finite
  positive := less.pricePositive
  quantity := by
    have positive := UInt32.lt_iff_toNat_lt.mp less.quantityPositive
    exact UInt32.le_iff_toNat_le.mpr positive
  quantityLimit :=
    UInt32.le_trans (UInt32.le_trans less.quantity within.quantityLimit)
      wide.quantity
  notionalFinite := less.notional_isFinite within.notionalFinite
  allowed := wide.allowed (less.symbol ▸ within.allowed)

/--
What some limits accept, wider limits accept of every smaller order, whatever
either manager has checked before.
-/
theorem accepted_mono (wide : Wider limits wider)
    (less : Smaller smaller request)
    {earlier earlier' : List OrderRequest}
    (accepted : Accepted limits earlier request) :
    Accepted wider earlier' smaller := by
  rw [accepted_iff] at accepted ⊢
  rcases accepted with ⟨within, limit⟩
  constructor
  · exact less.withinOtherLimits wide within
  · intro exceeds
    apply limit
    have below : limits.maxOrderNotional < notional smaller :=
      FloatArithmetic.lt_of_le_of_lt wide.notional exceeds
    exact FloatArithmetic.lt_of_lt_of_le below less.notional_le

/-- Three shares at one tenth, when ten at a dollar pass tighter limits. -/
theorem accepted_mono_shares :
    Accepted { maxOrderQuantity := 20, maxOrderNotional := 100.0 } []
      { sequenceId := 2, symbol := .ofView (text "AAPL"), price := 0.1
        quantity := 3 } := by
  have wide :
      Wider { maxOrderQuantity := 10, maxOrderNotional := 10.0 }
        { maxOrderQuantity := 20, maxOrderNotional := 100.0 } := by
    constructor
    · decide
    · decide +kernel
    · exact Or.inl rfl
  have less :
      Smaller
        { sequenceId := 2, symbol := .ofView (text "AAPL"), price := 0.1
          quantity := 3 }
        { sequenceId := 1, symbol := .ofView (text "AAPL"), price := 1.0
          quantity := 10 } := by
    constructor
    · rfl
    all_goals decide +kernel
  have accepted :
      Accepted { maxOrderQuantity := 10, maxOrderNotional := 10.0 } []
        { sequenceId := 1, symbol := .ofView (text "AAPL"), price := 1.0
          quantity := 10 } := by
    rw [accepted_iff]
    constructor
    · constructor
      all_goals decide +kernel
    · decide +kernel
  exact accepted_mono wide less accepted

end Llgw.RiskMonotone
