import Llgw.Foundation.FloatOrder
import Llgw.Foundation.KeyedStore
import Llgw.Messages

/-!
# The exchange simulator

`ExchangeSimulator` of `exchange_simulator.hpp` and `exchange_simulator.cpp`:
a set of sequence ids that were accepted once and a store of the orders that
are active now.
-/

namespace Llgw.Exchange

open Llgw.Foundation
open Llgw.Foundation.KeyedStore
open Llgw.Messages

structure ExchangeSimulator where
  seenSequenceIds : Finset UInt64 := ∅
  activeOrders : Store UInt64 OrderRequest := ∅

namespace ExchangeSimulator

/-- `ExchangeSimulator::SubmitOrder`. -/
def submitOrder (exchange : ExchangeSimulator) (request : OrderRequest) :
    OrderResponse × ExchangeSimulator :=
  if request.symbol.empty then
    ({ sequenceId := request.sequenceId
       accepted := false
       rejectReason := .invalidSymbol }, exchange)
  else if !request.price.isFinite || request.price ≤ 0.0 then
    ({ sequenceId := request.sequenceId
       accepted := false
       rejectReason := .invalidPrice }, exchange)
  else if request.quantity == 0 then
    ({ sequenceId := request.sequenceId
       accepted := false
       rejectReason := .invalidQuantity }, exchange)
  else if request.sequenceId ∈ exchange.seenSequenceIds then
    ({ sequenceId := request.sequenceId
       accepted := false
       rejectReason := .duplicateSequence }, exchange)
  else
    ({ sequenceId := request.sequenceId
       accepted := true
       rejectReason := .none },
      { seenSequenceIds :=
          insert request.sequenceId exchange.seenSequenceIds
        activeOrders :=
          (emplace request.sequenceId request exchange.activeOrders).2 })

/-- `ExchangeSimulator::CancelOrder`. -/
def cancelOrder (exchange : ExchangeSimulator) (request : CancelRequest) :
    CancelResponse × ExchangeSimulator :=
  match exchange.activeOrders.lookup request.sequenceId with
  | none =>
      ({ sequenceId := request.sequenceId
         accepted := false
         rejectReason := .unknownOrder }, exchange)
  | some _ =>
      ({ sequenceId := request.sequenceId
         accepted := true
         rejectReason := .none },
        { exchange with
          activeOrders := exchange.activeOrders.erase request.sequenceId })

/-- `ExchangeSimulator::AmendOrder`. -/
def amendOrder (exchange : ExchangeSimulator) (request : AmendRequest) :
    AmendResponse × ExchangeSimulator :=
  match exchange.activeOrders.lookup request.sequenceId with
  | none =>
      ({ sequenceId := request.sequenceId
         accepted := false
         rejectReason := .unknownOrder }, exchange)
  | some order =>
      if !request.newPrice.isFinite || request.newPrice ≤ 0.0 then
        ({ sequenceId := request.sequenceId
           accepted := false
           rejectReason := .invalidPrice }, exchange)
      else if request.newQuantity == 0 then
        ({ sequenceId := request.sequenceId
           accepted := false
           rejectReason := .invalidQuantity }, exchange)
      else
        ({ sequenceId := request.sequenceId
           accepted := true
           rejectReason := .none },
          { exchange with
            activeOrders :=
              exchange.activeOrders.insert request.sequenceId
                { order with
                  price := request.newPrice
                  quantity := request.newQuantity } })

/-- `ExchangeSimulator::HasActiveOrder`. -/
def hasActiveOrder (exchange : ExchangeSimulator) (sequenceId : UInt64) :
    Bool :=
  sequenceId ∈ exchange.activeOrders

/-- `ExchangeSimulator::FindActiveOrder`. -/
def findActiveOrder (exchange : ExchangeSimulator) (sequenceId : UInt64) :
    Option OrderRequest :=
  exchange.activeOrders.lookup sequenceId

/-- `ExchangeSimulator::active_order_count`. -/
def activeOrderCount (exchange : ExchangeSimulator) : Nat :=
  exchange.activeOrders.keys.card

@[simp]
theorem hasActiveOrder_iff
    (exchange : ExchangeSimulator) (sequenceId : UInt64) :
    exchange.hasActiveOrder sequenceId = true ↔
      sequenceId ∈ exchange.activeOrders := by
  simp [hasActiveOrder]

end ExchangeSimulator

/-! ## Validity of orders and amendments -/

/-- The price test shared by submissions and amendments. -/
def ValidPrice (price : Float) : Prop :=
  price.isFinite = true ∧ ¬ price ≤ 0.0

instance (price : Float) : Decidable (ValidPrice price) :=
  inferInstanceAs (Decidable (_ ∧ _))

theorem validPrice_pos {price : Float} (valid : ValidPrice price) :
    0.0 < price :=
  FloatOrder.lt_of_not_le (by decide)
    (FloatOrder.not_isNaN_of_isFinite valid.1) valid.2

/-- The three tests a submission passes before its id is looked at. -/
structure ValidOrder (request : OrderRequest) : Prop where
  symbol : request.symbol.view ≠ []
  price : ValidPrice request.price
  quantity : request.quantity ≠ 0

/-- The two tests an amendment of an active order passes. -/
structure ValidAmend (request : AmendRequest) : Prop where
  price : ValidPrice request.newPrice
  quantity : request.newQuantity ≠ 0

theorem validOrder_iff (request : OrderRequest) :
    ValidOrder request ↔
      request.symbol.view ≠ [] ∧ ValidPrice request.price ∧
        request.quantity ≠ 0 :=
  ⟨fun valid => ⟨valid.symbol, valid.price, valid.quantity⟩,
    fun ⟨symbol, price, quantity⟩ => ⟨symbol, price, quantity⟩⟩

theorem validAmend_iff (request : AmendRequest) :
    ValidAmend request ↔
      ValidPrice request.newPrice ∧ request.newQuantity ≠ 0 :=
  ⟨fun valid => ⟨valid.price, valid.quantity⟩,
    fun ⟨price, quantity⟩ => ⟨price, quantity⟩⟩

instance (request : OrderRequest) : Decidable (ValidOrder request) :=
  decidable_of_iff _ (validOrder_iff request).symm

instance (request : AmendRequest) : Decidable (ValidAmend request) :=
  decidable_of_iff _ (validAmend_iff request).symm

/-- The source spells the price test as a rejecting disjunction. -/
theorem priceTest_eq_false_iff (price : Float) :
    (!price.isFinite || decide (price ≤ 0.0)) = false ↔
      ValidPrice price := by
  simp [ValidPrice]

/-- The terms an accepted amendment writes into an order. -/
def amendedOrder (order : OrderRequest) (request : AmendRequest) :
    OrderRequest :=
  { order with price := request.newPrice, quantity := request.newQuantity }

namespace ExchangeSimulator

variable {exchange : ExchangeSimulator}

/-! ## What each operation does -/

theorem submitOrder_of_accepts
    {request : OrderRequest}
    (valid : ValidOrder request)
    (unseen : request.sequenceId ∉ exchange.seenSequenceIds) :
    exchange.submitOrder request =
      ({ sequenceId := request.sequenceId, accepted := true,
         rejectReason := .none },
        { seenSequenceIds :=
            insert request.sequenceId exchange.seenSequenceIds
          activeOrders :=
            (emplace request.sequenceId request
              exchange.activeOrders).2 }) := by
  have price := (priceTest_eq_false_iff request.price).mpr valid.price
  simp [submitOrder, valid.symbol, price, valid.quantity, unseen]

/--
A submission is refused without effect, as a duplicate exactly when nothing
else is wrong with it.
-/
theorem submitOrder_of_rejects
    {request : OrderRequest}
    (refused :
      ¬ (ValidOrder request ∧
        request.sequenceId ∉ exchange.seenSequenceIds)) :
    ∃ reason, reason ≠ OrderRejectReason.none ∧
      (reason = .duplicateSequence ↔ ValidOrder request) ∧
      exchange.submitOrder request =
        ({ sequenceId := request.sequenceId, accepted := false,
           rejectReason := reason }, exchange) := by
  by_cases valid : ValidOrder request
  · have seen : request.sequenceId ∈ exchange.seenSequenceIds :=
      Classical.not_not.mp fun unseen => refused ⟨valid, unseen⟩
    have price := (priceTest_eq_false_iff request.price).mpr valid.price
    refine ⟨.duplicateSequence, by decide, by simp [valid], ?_⟩
    simp [submitOrder, valid.symbol, price, valid.quantity, seen]
  · unfold submitOrder
    split_ifs with symbol price quantity seen
    · exact ⟨.invalidSymbol, by decide, by simp [valid], rfl⟩
    · exact ⟨.invalidPrice, by decide, by simp [valid], rfl⟩
    · exact ⟨.invalidQuantity, by decide, by simp [valid], rfl⟩
    all_goals
      refine absurd ⟨?_, ?_, ?_⟩ valid
      · simpa using symbol
      · exact (priceTest_eq_false_iff _).mp (by simpa using price)
      · simpa using quantity

theorem submitOrder_accepted_iff (request : OrderRequest) :
    (exchange.submitOrder request).1.accepted = true ↔
      ValidOrder request ∧
        request.sequenceId ∉ exchange.seenSequenceIds := by
  by_cases passes :
      ValidOrder request ∧ request.sequenceId ∉ exchange.seenSequenceIds
  · simp [submitOrder_of_accepts passes.1 passes.2, passes]
  · rcases submitOrder_of_rejects passes with ⟨reason, _, _, result⟩
    simp [result, passes]

theorem cancelOrder_of_active
    {request : CancelRequest} {order : OrderRequest}
    (active :
      exchange.activeOrders.lookup request.sequenceId = some order) :
    exchange.cancelOrder request =
      ({ sequenceId := request.sequenceId, accepted := true,
         rejectReason := .none },
        { exchange with
          activeOrders :=
            exchange.activeOrders.erase request.sequenceId }) := by
  simp only [cancelOrder, active]

theorem cancelOrder_of_inactive
    {request : CancelRequest}
    (inactive :
      exchange.activeOrders.lookup request.sequenceId = none) :
    exchange.cancelOrder request =
      ({ sequenceId := request.sequenceId, accepted := false,
         rejectReason := .unknownOrder }, exchange) := by
  simp only [cancelOrder, inactive]

theorem amendOrder_of_accepts
    {request : AmendRequest} {order : OrderRequest}
    (active :
      exchange.activeOrders.lookup request.sequenceId = some order)
    (valid : ValidAmend request) :
    exchange.amendOrder request =
      ({ sequenceId := request.sequenceId, accepted := true,
         rejectReason := .none },
        { exchange with
          activeOrders :=
            exchange.activeOrders.insert request.sequenceId
              (amendedOrder order request) }) := by
  have price := (priceTest_eq_false_iff request.newPrice).mpr valid.price
  simp [amendOrder, active, price, valid.quantity, amendedOrder]

theorem amendOrder_of_inactive
    {request : AmendRequest}
    (inactive :
      exchange.activeOrders.lookup request.sequenceId = none) :
    exchange.amendOrder request =
      ({ sequenceId := request.sequenceId, accepted := false,
         rejectReason := .unknownOrder }, exchange) := by
  simp only [amendOrder, inactive]

/-- An invalid amendment of an active order names the invalid field. -/
theorem amendOrder_of_invalid
    {request : AmendRequest} {order : OrderRequest}
    (active :
      exchange.activeOrders.lookup request.sequenceId = some order)
    (invalid : ¬ ValidAmend request) :
    ∃ reason, reason ≠ AmendRejectReason.none ∧
      reason ≠ .unknownOrder ∧ reason ≠ .invalidState ∧
      exchange.amendOrder request =
        ({ sequenceId := request.sequenceId, accepted := false,
           rejectReason := reason }, exchange) := by
  simp only [amendOrder, active]
  split_ifs with price quantity
  · exact ⟨.invalidPrice, by decide, by decide, by decide, rfl⟩
  · exact ⟨.invalidQuantity, by decide, by decide, by decide, rfl⟩
  · refine absurd ⟨?_, ?_⟩ invalid
    · exact (priceTest_eq_false_iff _).mp (by simpa using price)
    · simpa using quantity

end ExchangeSimulator

end Llgw.Exchange
