import Llgw.Exchange
import Llgw.Foundation.FloatOrder
import Llgw.Foundation.TransitionRun
import Llgw.Risk

/-!
# What acceptance by the risk check guarantees

`Check` accepts what passes six rejecting tests.  Every test but one then
gives the guarantee that it stands for, whatever the configured limits are.
The notional test compares with `>`, which is false of a NaN limit: such a
limit rejects nothing, and exactly then the guarantee fails.
-/

namespace Llgw.RiskFailClosed

open Llgw.Foundation
open Llgw.Foundation.TransitionRun
open Llgw.Messages
open Llgw.Risk
open Llgw.Risk.PreTradeRiskManager (notional)
open Llgw.Exchange

/-- A risk manager built from limits, after some earlier checks. -/
def managerAfter (limits : RiskLimits) (earlier : List OrderRequest) :
    PreTradeRiskManager :=
  run PreTradeRiskManager.check (.ofLimits limits) earlier

/-- The configured symbols that the clamped count leaves in effect. -/
def effectiveAllowlist (limits : RiskLimits) : List ByteString :=
  limits.allowedSymbols.toList.take
    (min limits.allowedSymbolCount kMaxAllowedSymbols)

/-- The guarantees of an accepted order but for its notional limit. -/
structure WithinOtherLimits (limits : RiskLimits) (request : OrderRequest) :
    Prop where
  symbol : request.symbol.view ≠ []
  finite : request.price.isFinite = true
  positive : 0.0 < request.price
  quantity : 1 ≤ request.quantity
  quantityLimit : request.quantity ≤ limits.maxOrderQuantity
  notionalFinite : (notional request).isFinite = true
  allowed :
    effectiveAllowlist limits = [] ∨
      request.symbol.view ∈ effectiveAllowlist limits

/-- The guarantees of an accepted order. -/
structure WithinLimits (limits : RiskLimits) (request : OrderRequest) : Prop
    extends WithinOtherLimits limits request where
  notionalLimit : notional request ≤ limits.maxOrderNotional

/-- Acceptance of a request, after some earlier checks. -/
def Accepted (limits : RiskLimits) (earlier : List OrderRequest)
    (request : OrderRequest) : Prop :=
  ((managerAfter limits earlier).check request).1.accepted = true

/-! ## The decision -/

/-- Earlier checks do not change a decision. -/
theorem managerAfter_firstFailure (limits : RiskLimits)
    (earlier : List OrderRequest) :
    (managerAfter limits earlier).firstFailure =
      (PreTradeRiskManager.ofLimits limits).firstFailure := by
  apply
    run_invariant PreTradeRiskManager.check fun manager =>
      manager.firstFailure =
        (PreTradeRiskManager.ofLimits limits).firstFailure
  · rfl
  · intro manager request same
    exact (manager.check_firstFailure request).trans same

theorem accepted_iff_permits (limits : RiskLimits)
    (earlier : List OrderRequest) (request : OrderRequest) :
    Accepted limits earlier request ↔
      (PreTradeRiskManager.ofLimits limits).Permits request := by
  rw [Accepted, PreTradeRiskManager.check_accepted_eq_accepts,
    PreTradeRiskManager.accepts, managerAfter_firstFailure,
    Option.isNone_iff_eq_none, PreTradeRiskManager.firstFailure_eq_none_iff]

/-- The constructor keeps the symbols that are in effect. -/
theorem allowlist_ofLimits (limits : RiskLimits) :
    (PreTradeRiskManager.ofLimits limits).allowlist =
      effectiveAllowlist limits := by
  apply List.ext_getElem
  · simp [PreTradeRiskManager.allowlist, PreTradeRiskManager.ofLimits,
      effectiveAllowlist]
  · intro position inside _
    simp only [PreTradeRiskManager.allowlist, PreTradeRiskManager.ofLimits,
      List.length_take] at inside
    have visited : position < limits.allowedSymbolCount :=
      (Nat.lt_min.mp (Nat.lt_min.mp inside).1).1
    simp [PreTradeRiskManager.allowlist, PreTradeRiskManager.ofLimits,
      effectiveAllowlist, Nat.not_le.mpr visited]

theorem isAllowedSymbol_iff (limits : RiskLimits) (request : OrderRequest) :
    (PreTradeRiskManager.ofLimits limits).isAllowedSymbol request = true ↔
      effectiveAllowlist limits = [] ∨
        request.symbol.view ∈ effectiveAllowlist limits := by
  have length :
      (effectiveAllowlist limits).length =
        (PreTradeRiskManager.ofLimits limits).allowedSymbolCount := by
    simp [effectiveAllowlist, PreTradeRiskManager.ofLimits]
  rw [PreTradeRiskManager.isAllowedSymbol, allowlist_ofLimits, ← length,
    ← List.length_eq_zero_iff]
  split_ifs with unrestricted
  · simp only [beq_iff_eq] at unrestricted
    simp [unrestricted]
  · simp only [beq_iff_eq] at unrestricted
    simp [unrestricted]

/-- The tests of `Check` against a request and the configured limits. -/
theorem accepted_iff (limits : RiskLimits) (earlier : List OrderRequest)
    (request : OrderRequest) :
    Accepted limits earlier request ↔
      WithinOtherLimits limits request ∧
        ¬ limits.maxOrderNotional < notional request := by
  rw [accepted_iff_permits]
  constructor
  · intro permits
    have some : 1 ≤ request.quantity := by
      have nonzero : request.quantity.toNat ≠ 0 := by
        intro zero
        exact permits.quantity (UInt32.toNat_inj.mp zero)
      exact UInt32.le_iff_toNat_le.mpr (Nat.one_le_iff_ne_zero.mpr nonzero)
    exact
      ⟨{ symbol := permits.symbol
         finite := permits.finite
         positive := validPrice_pos ⟨permits.finite, permits.positive⟩
         quantity := some
         quantityLimit := permits.quantityLimit
         notionalFinite := permits.notionalFinite
         allowed := (isAllowedSymbol_iff limits request).mp permits.allowed },
        permits.notionalLimit⟩
  · rintro ⟨within, limit⟩
    exact
      { symbol := within.symbol
        finite := within.finite
        positive := FloatOrder.not_le_of_lt within.positive
        quantity := by
          intro zero
          have some := within.quantity
          rw [zero] at some
          exact absurd some (by decide)
        quantityLimit := within.quantityLimit
        notionalFinite := within.notionalFinite
        notionalLimit := limit
        allowed :=
          (isAllowedSymbol_iff limits request).mpr within.allowed }

/-! ## Where the check fails open -/

/--
An accepted order is within the configured limits exactly unless the notional
limit is NaN and the order meets every other limit.
-/
theorem check_fails_closed_iff (limits : RiskLimits)
    (earlier : List OrderRequest) (request : OrderRequest) :
    (Accepted limits earlier request → WithinLimits limits request) ↔
      ¬ (limits.maxOrderNotional.isNaN = true ∧
        WithinOtherLimits limits request) := by
  rw [accepted_iff]
  constructor
  · rintro guaranteed ⟨notANumber, within⟩
    have unlimited : ¬ limits.maxOrderNotional < notional request :=
      FloatOrder.not_lt_of_isNaN (Or.inl notANumber)
    have limited := (guaranteed ⟨within, unlimited⟩).notionalLimit
    exact FloatOrder.not_le_of_isNaN (Or.inr notANumber) limited
  · rintro closed ⟨within, limit⟩
    have number : ¬ limits.maxOrderNotional.isNaN = true := by
      intro notANumber
      exact closed ⟨notANumber, within⟩
    have finite :=
      FloatOrder.not_isNaN_of_isFinite within.notionalFinite
    exact
      { within with
        notionalLimit := FloatOrder.le_of_not_lt finite number limit }

/-- Limits whose notional limit is a quiet NaN. -/
def limitsWithNaN : RiskLimits where
  maxOrderNotional := .ofBits 0x7FF8000000000000

/-- One share at one dollar. -/
def oneShare : OrderRequest where
  sequenceId := 1
  symbol := .ofView (text "AAPL")
  price := 1.0
  quantity := 1

/-- Under a NaN limit an order is accepted whose notional is not within it. -/
theorem nan_limit_accepts :
    ¬ ∀ limits earlier request,
      Accepted limits earlier request → WithinLimits limits request := by
  intro closed
  have notANumber : limitsWithNaN.maxOrderNotional.isNaN = true := rfl
  have within : WithinOtherLimits limitsWithNaN oneShare := by
    constructor
    all_goals decide
  have accepted : Accepted limitsWithNaN [] oneShare := by
    rw [accepted_iff]
    exact ⟨within, FloatOrder.not_lt_of_isNaN (Or.inl notANumber)⟩
  have limited := (closed limitsWithNaN [] oneShare accepted).notionalLimit
  exact FloatOrder.not_le_of_isNaN (Or.inr notANumber) limited

end Llgw.RiskFailClosed
