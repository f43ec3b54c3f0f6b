import Llgw.Messages

/-!
# Pre-trade risk

`PreTradeRiskManager` of `pre_trade_risk.hpp` and `pre_trade_risk.cpp`.
Counters are natural numbers: the `uint64_t` of the source is their residue
modulo `2 ^ 64`, and nothing in the program reads a counter back.
-/

namespace Llgw.Risk

open Llgw.Messages

inductive RiskRejectReason where
  | none
  | invalidSymbol
  | invalidPrice
  | invalidQuantity
  | quantityLimit
  | notionalLimit
  | symbolNotAllowed
deriving DecidableEq, Repr

/-- `ToString(RiskRejectReason)`. -/
def RiskRejectReason.toString : RiskRejectReason → ByteString
  | .none => text "none"
  | .invalidSymbol => text "invalid_symbol"
  | .invalidPrice => text "invalid_price"
  | .invalidQuantity => text "invalid_quantity"
  | .quantityLimit => text "quantity_limit"
  | .notionalLimit => text "notional_limit"
  | .symbolNotAllowed => text "symbol_not_allowed"

theorem RiskRejectReason.toString_injective :
    Function.Injective RiskRejectReason.toString := by
  intro left right equal
  cases left <;> cases right <;> first | rfl | exact absurd equal (by decide)

structure RiskDecision where
  accepted : Bool := false
  rejectReason : RiskRejectReason := .none
deriving DecidableEq

/-- `RiskLimits::kMaxAllowedSymbols`. -/
def kMaxAllowedSymbols : Nat := 8

/-- The configuration given by a caller; no field is validated. -/
structure RiskLimits where
  maxOrderQuantity : UInt32 := 1000
  maxOrderNotional : Float := 1000000.0
  allowedSymbols : Vector ByteString kMaxAllowedSymbols :=
    Vector.replicate kMaxAllowedSymbols []
  allowedSymbolCount : Nat := 0

structure PreTradeRiskManager where
  maxOrderQuantity : UInt32
  maxOrderNotional : Float
  allowedSymbols : Vector ByteString kMaxAllowedSymbols
  allowedSymbolCount : Nat
  count_le : allowedSymbolCount ≤ kMaxAllowedSymbols
  ordersChecked : Nat := 0
  ordersAccepted : Nat := 0
  ordersRejected : Nat := 0
  rejectedInvalidSymbol : Nat := 0
  rejectedInvalidPrice : Nat := 0
  rejectedInvalidQuantity : Nat := 0
  rejectedQuantityLimit : Nat := 0
  rejectedNotionalLimit : Nat := 0
  rejectedSymbolNotAllowed : Nat := 0

namespace PreTradeRiskManager

/-- The constructor clamps the symbol count and copies that many symbols. -/
def ofLimits (limits : RiskLimits) : PreTradeRiskManager where
  maxOrderQuantity := limits.maxOrderQuantity
  maxOrderNotional := limits.maxOrderNotional
  allowedSymbols :=
    Vector.ofFn fun index =>
      if index < min limits.allowedSymbolCount kMaxAllowedSymbols then
        limits.allowedSymbols[index]
      else []
  allowedSymbolCount := min limits.allowedSymbolCount kMaxAllowedSymbols
  count_le := Nat.min_le_right _ _

/-- The symbols that the loop of `IsAllowedSymbol` visits. -/
def allowlist (manager : PreTradeRiskManager) : List ByteString :=
  manager.allowedSymbols.toList.take manager.allowedSymbolCount

/-- `PreTradeRiskManager::IsAllowedSymbol`. -/
def isAllowedSymbol
    (manager : PreTradeRiskManager) (request : OrderRequest) : Bool :=
  if manager.allowedSymbolCount == 0 then true
  else manager.allowlist.any fun allowed => request.symbol.view == allowed

/-- Only the symbol of a request matters to the allowlist. -/
theorem isAllowedSymbol_congr (manager : PreTradeRiskManager)
    {first second : OrderRequest} (same : first.symbol = second.symbol) :
    manager.isAllowedSymbol first = manager.isAllowedSymbol second := by
  simp only [isAllowedSymbol, same]

/-- `PreTradeRiskManager::Reject`. -/
def reject (manager : PreTradeRiskManager) (reason : RiskRejectReason) :
    RiskDecision × PreTradeRiskManager :=
  let manager :=
    { manager with ordersRejected := manager.ordersRejected + 1 }
  let manager :=
    match reason with
    | .invalidSymbol =>
        { manager with
          rejectedInvalidSymbol := manager.rejectedInvalidSymbol + 1 }
    | .invalidPrice =>
        { manager with
          rejectedInvalidPrice := manager.rejectedInvalidPrice + 1 }
    | .invalidQuantity =>
        { manager with
          rejectedInvalidQuantity := manager.rejectedInvalidQuantity + 1 }
    | .quantityLimit =>
        { manager with
          rejectedQuantityLimit := manager.rejectedQuantityLimit + 1 }
    | .notionalLimit =>
        { manager with
          rejectedNotionalLimit := manager.rejectedNotionalLimit + 1 }
    | .symbolNotAllowed =>
        { manager with
          rejectedSymbolNotAllowed := manager.rejectedSymbolNotAllowed + 1 }
    | .none => manager
  ({ accepted := false, rejectReason := reason }, manager)

/-- The product `Check` compares with the notional limit. -/
def notional (request : OrderRequest) : Float :=
  request.price * request.quantity.toFloat

/-- `PreTradeRiskManager::Check`. -/
def check (manager : PreTradeRiskManager) (request : OrderRequest) :
    RiskDecision × PreTradeRiskManager :=
  let manager := { manager with ordersChecked := manager.ordersChecked + 1 }
  if request.symbol.empty then
    manager.reject .invalidSymbol
  else if !request.price.isFinite || request.price ≤ 0.0 then
    manager.reject .invalidPrice
  else if request.quantity == 0 then
    manager.reject .invalidQuantity
  else if request.quantity > manager.maxOrderQuantity then
    manager.reject .quantityLimit
  else if !(notional request).isFinite ||
      notional request > manager.maxOrderNotional then
    manager.reject .notionalLimit
  else if !manager.isAllowedSymbol request then
    manager.reject .symbolNotAllowed
  else
    ({ accepted := true, rejectReason := .none },
      { manager with ordersAccepted := manager.ordersAccepted + 1 })

/-! ## The decision of a check -/

/-- The first of the six tests that fires, in the order of the source. -/
def firstFailure (manager : PreTradeRiskManager) (request : OrderRequest) :
    Option RiskRejectReason :=
  if request.symbol.empty then some .invalidSymbol
  else if !request.price.isFinite || request.price ≤ 0.0 then
    some .invalidPrice
  else if request.quantity == 0 then some .invalidQuantity
  else if request.quantity > manager.maxOrderQuantity then
    some .quantityLimit
  else if !(notional request).isFinite ||
      notional request > manager.maxOrderNotional then
    some .notionalLimit
  else if !manager.isAllowedSymbol request then some .symbolNotAllowed
  else Option.none

/-- Whether `Check` lets a request pass. -/
def accepts (manager : PreTradeRiskManager) (request : OrderRequest) : Bool :=
  (manager.firstFailure request).isNone

/-- The manager after a check that passes. -/
def afterAccept (manager : PreTradeRiskManager) : PreTradeRiskManager :=
  { manager with
    ordersChecked := manager.ordersChecked + 1
    ordersAccepted := manager.ordersAccepted + 1 }

/-- The manager after a check that fails for `reason`. -/
def afterReject (manager : PreTradeRiskManager) (reason : RiskRejectReason) :
    PreTradeRiskManager :=
  ({ manager with ordersChecked := manager.ordersChecked + 1 }.reject
    reason).2

@[simp]
theorem afterReject_ordersChecked (manager : PreTradeRiskManager)
    (reason : RiskRejectReason) :
    (manager.afterReject reason).ordersChecked =
      manager.ordersChecked + 1 := by
  cases reason <;> rfl

@[simp]
theorem afterReject_ordersAccepted (manager : PreTradeRiskManager)
    (reason : RiskRejectReason) :
    (manager.afterReject reason).ordersAccepted =
      manager.ordersAccepted := by
  cases reason <;> rfl

@[simp]
theorem afterReject_ordersRejected (manager : PreTradeRiskManager)
    (reason : RiskRejectReason) :
    (manager.afterReject reason).ordersRejected =
      manager.ordersRejected + 1 := by
  cases reason <;> rfl

/-- A check that fails changes counters only. -/
@[simp]
theorem afterReject_firstFailure (manager : PreTradeRiskManager)
    (reason : RiskRejectReason) :
    (manager.afterReject reason).firstFailure = manager.firstFailure := by
  cases reason <;> rfl

/-- A check is decided by the first test that fires. -/
theorem check_eq (manager : PreTradeRiskManager) (request : OrderRequest) :
    manager.check request =
      match manager.firstFailure request with
      | some reason =>
          ({ accepted := false, rejectReason := reason },
            manager.afterReject reason)
      | Option.none =>
          ({ accepted := true, rejectReason := .none },
            manager.afterAccept) := by
  have counted :
      { manager with
          ordersChecked := manager.ordersChecked + 1 }.isAllowedSymbol
          request =
        manager.isAllowedSymbol request := rfl
  simp only [check, firstFailure, counted]
  split_ifs <;> rfl

theorem check_of_failure
    {manager : PreTradeRiskManager} {request : OrderRequest}
    {reason : RiskRejectReason}
    (failure : manager.firstFailure request = some reason) :
    manager.check request =
      ({ accepted := false, rejectReason := reason },
        manager.afterReject reason) := by
  rw [check_eq, failure]

theorem check_of_accepts
    {manager : PreTradeRiskManager} {request : OrderRequest}
    (passes : manager.firstFailure request = Option.none) :
    manager.check request =
      ({ accepted := true, rejectReason := .none },
        manager.afterAccept) := by
  rw [check_eq, passes]

/-- A check never changes a later decision. -/
@[simp]
theorem check_firstFailure
    (manager : PreTradeRiskManager) (request : OrderRequest) :
    (manager.check request).2.firstFailure = manager.firstFailure := by
  rw [check_eq]
  cases manager.firstFailure request with
  | none => rfl
  | some reason => exact manager.afterReject_firstFailure reason

theorem check_accepted_eq_accepts
    (manager : PreTradeRiskManager) (request : OrderRequest) :
    (manager.check request).1.accepted = manager.accepts request := by
  rw [check_eq, accepts]
  cases manager.firstFailure request <;> rfl

/-- A reason of a failed check is never `kNone`. -/
theorem firstFailure_ne_none
    {manager : PreTradeRiskManager} {request : OrderRequest}
    {reason : RiskRejectReason}
    (failure : manager.firstFailure request = some reason) :
    reason ≠ .none := by
  rintro rfl
  unfold firstFailure at failure
  split_ifs at failure <;> simp at failure

/-- What a passing check guarantees of the request and the limits. -/
structure Permits
    (manager : PreTradeRiskManager) (request : OrderRequest) : Prop where
  symbol : request.symbol.view ≠ []
  finite : request.price.isFinite = true
  positive : ¬ request.price ≤ 0.0
  quantity : request.quantity ≠ 0
  quantityLimit : request.quantity ≤ manager.maxOrderQuantity
  notionalFinite : (notional request).isFinite = true
  notionalLimit : ¬ notional request > manager.maxOrderNotional
  allowed : manager.isAllowedSymbol request = true

/-- `Check` passes exactly the requests that meet all six conditions. -/
theorem firstFailure_eq_none_iff
    (manager : PreTradeRiskManager) (request : OrderRequest) :
    manager.firstFailure request = Option.none ↔
      manager.Permits request := by
  constructor
  · intro passes
    unfold firstFailure at passes
    split_ifs at passes with symbol price quantity limit product allowed
    simp only [Bool.or_eq_true, Bool.not_eq_true', decide_eq_true_eq,
      not_or, Bool.not_eq_false] at price product
    exact
      { symbol := by simpa using symbol
        finite := price.1
        positive := price.2
        quantity := by simpa using quantity
        quantityLimit := by simpa using limit
        notionalFinite := product.1
        notionalLimit := product.2
        allowed := by simpa using allowed }
  · intro permits
    unfold firstFailure
    have limit : ¬ request.quantity > manager.maxOrderQuantity := by
      simpa using permits.quantityLimit
    simp [permits.symbol, permits.finite, permits.positive,
      permits.quantity, limit, permits.notionalFinite,
      permits.notionalLimit, permits.allowed]

end PreTradeRiskManager

end Llgw.Risk
