import Llgw.Exchange
import Llgw.LifecycleMarks

/-!
# The order gateway

`OrderGateway` of `order_gateway.hpp` and `order_gateway.cpp`.  A gateway is
constructed with two pointers, to an exchange and to a lifecycle tracker, each
of which may be null; `GatewayWiring` says which are set.  A `Venue` is the
gateway together with the two objects.

`SendCancel` and `SendAmend` share one shape: a pending transition, one
exchange call and a completing transition.  `sendAction` is that shape, and
each method is `sendAction` at its own values.
-/

namespace Llgw.Gateway

open Llgw.Messages
open Llgw.Exchange
open Llgw.Lifecycle
open Llgw.LifecycleMarks

/-- Which pointers a gateway was constructed with. -/
structure GatewayWiring where
  exchange : Bool
  lifecycleTracker : Bool
deriving DecidableEq

structure OrderGateway where
  ordersSent : Nat := 0
  ordersAccepted : Nat := 0
  ordersRejected : Nat := 0
  cancelsSent : Nat := 0
  cancelsAccepted : Nat := 0
  cancelsRejected : Nat := 0
  amendsSent : Nat := 0
  amendsAccepted : Nat := 0
  amendsRejected : Nat := 0
  lifecycleTransitionErrors : Nat := 0
deriving DecidableEq

/-- A gateway with the objects its pointers may refer to. -/
structure Venue where
  gateway : OrderGateway := {}
  exchange : ExchangeSimulator := {}
  lifecycleTracker : OrderLifecycleTracker := {}

/--
A transition through a pointer that may be null.  The flag is `false` exactly
when the pointer is set and the call fails.
-/
def track (attached : Bool) (sequenceId : UInt64) (mark : Mark)
    (tracker : OrderLifecycleTracker) : Bool × OrderLifecycleTracker :=
  if attached then applyMark tracker sequenceId mark else (true, tracker)

/-- `OrderGateway::SendOrder`. -/
def sendOrder (wiring : GatewayWiring) (venue : Venue)
    (request : OrderRequest) : OrderResponse × Venue :=
  let gateway :=
    { venue.gateway with ordersSent := venue.gateway.ordersSent + 1 }
  if !wiring.exchange then
    ({ sequenceId := request.sequenceId
       accepted := false
       rejectReason := .invalidSymbol },
      { venue with
        gateway :=
          { gateway with ordersRejected := gateway.ordersRejected + 1 } })
  else
    let submitted := venue.exchange.submitOrder request
    (submitted.1,
      { venue with
        gateway :=
          if submitted.1.accepted then
            { gateway with ordersAccepted := gateway.ordersAccepted + 1 }
          else
            { gateway with ordersRejected := gateway.ordersRejected + 1 }
        exchange := submitted.2 })

/-- The values in which `SendCancel` and `SendAmend` differ. -/
structure ActionPath (Response : Type) where
  sequenceId : UInt64
  countSent : OrderGateway → OrderGateway
  countAccepted : OrderGateway → OrderGateway
  countRejected : OrderGateway → OrderGateway
  pendingMark : Mark
  acceptedMark : Mark
  rejectedMark : Response → Mark
  refusal : Response
  noExchange : Response
  execute : ExchangeSimulator → Response × ExchangeSimulator
  accepted : Response → Bool

/-- The exchange call of an action, answered by the gateway without one. -/
def executed {Response : Type} (wiring : GatewayWiring)
    (path : ActionPath Response) (exchange : ExchangeSimulator) :
    Response × ExchangeSimulator :=
  if wiring.exchange then path.execute exchange
  else (path.noExchange, exchange)

/-- The transition that completes an action with this response. -/
def ActionPath.completingMark {Response : Type}
    (path : ActionPath Response) (response : Response) : Mark :=
  if path.accepted response then path.acceptedMark
  else path.rejectedMark response

/-- One more lifecycle transition error of the gateway. -/
def countError (gateway : OrderGateway) : OrderGateway :=
  { gateway with
    lifecycleTransitionErrors := gateway.lifecycleTransitionErrors + 1 }

/-- The shape of `SendCancel` and `SendAmend`. -/
def sendAction {Response : Type} (wiring : GatewayWiring) (venue : Venue)
    (path : ActionPath Response) : Response × Venue :=
  let gateway := path.countSent venue.gateway
  let pending :=
    track wiring.lifecycleTracker path.sequenceId path.pendingMark
      venue.lifecycleTracker
  if !pending.1 then
    (path.refusal,
      { venue with
        gateway := path.countRejected (countError gateway)
        lifecycleTracker := pending.2 })
  else
    let result := executed wiring path venue.exchange
    let gateway :=
      if path.accepted result.1 then path.countAccepted gateway
      else path.countRejected gateway
    let completed :=
      track wiring.lifecycleTracker path.sequenceId
        (path.completingMark result.1) pending.2
    (result.1,
      { gateway := if !completed.1 then countError gateway else gateway
        exchange := result.2
        lifecycleTracker := completed.2 })

/-- The values of `SendCancel`. -/
def cancelPath (request : CancelRequest) : ActionPath CancelResponse where
  sequenceId := request.sequenceId
  countSent gateway :=
    { gateway with cancelsSent := gateway.cancelsSent + 1 }
  countAccepted gateway :=
    { gateway with cancelsAccepted := gateway.cancelsAccepted + 1 }
  countRejected gateway :=
    { gateway with cancelsRejected := gateway.cancelsRejected + 1 }
  pendingMark := .cancelPending
  acceptedMark := .cancelled
  rejectedMark response := .cancelRejected response.rejectReason
  refusal :=
    { sequenceId := request.sequenceId
      accepted := false
      rejectReason := .invalidState }
  noExchange :=
    { sequenceId := request.sequenceId
      accepted := false
      rejectReason := .unknownOrder }
  execute exchange := exchange.cancelOrder request
  accepted := CancelResponse.accepted

/-- The values of `SendAmend`. -/
def amendPath (request : AmendRequest) : ActionPath AmendResponse where
  sequenceId := request.sequenceId
  countSent gateway :=
    { gateway with amendsSent := gateway.amendsSent + 1 }
  countAccepted gateway :=
    { gateway with amendsAccepted := gateway.amendsAccepted + 1 }
  countRejected gateway :=
    { gateway with amendsRejected := gateway.amendsRejected + 1 }
  pendingMark := .amendPending
  acceptedMark := .amendAccepted
  rejectedMark response := .amendRejected response.rejectReason
  refusal :=
    { sequenceId := request.sequenceId
      accepted := false
      rejectReason := .invalidState }
  noExchange :=
    { sequenceId := request.sequenceId
      accepted := false
      rejectReason := .unknownOrder }
  execute exchange := exchange.amendOrder request
  accepted := AmendResponse.accepted

/-- `OrderGateway::SendCancel`. -/
def sendCancel (wiring : GatewayWiring) (venue : Venue)
    (request : CancelRequest) : CancelResponse × Venue :=
  sendAction wiring venue (cancelPath request)

/-- `OrderGateway::SendAmend`. -/
def sendAmend (wiring : GatewayWiring) (venue : Venue)
    (request : AmendRequest) : AmendResponse × Venue :=
  sendAction wiring venue (amendPath request)

/-! ## The three outcomes of an action -/

/--
The shape of the transition cycle of an action: it starts and may return at
`exchangeAccepted`, and a response that is not accepted gives a reason.
-/
structure ActionPath.Cyclic {Response : Type}
    (path : ActionPath Response) : Prop where
  pendingSource : path.pendingMark.source = .exchangeAccepted
  pendingReason : path.pendingMark.reasonMissing = false
  completingSource :
    ∀ response,
      (path.completingMark response).source = path.pendingMark.target
  completingReason :
    ∀ wiring exchange,
      (path.completingMark
        (executed wiring path exchange).1).reasonMissing = false

theorem cancelPath_cyclic (request : CancelRequest) :
    (cancelPath request).Cyclic where
  pendingSource := rfl
  pendingReason := rfl
  completingSource response := by
    unfold ActionPath.completingMark
    split_ifs <;> rfl
  completingReason wiring exchange := by
    unfold executed
    split_ifs
    · cases active : exchange.activeOrders.lookup request.sequenceId with
      | none =>
          simp only [cancelPath,
            ExchangeSimulator.cancelOrder_of_inactive active]
          rfl
      | some order =>
          simp only [cancelPath,
            ExchangeSimulator.cancelOrder_of_active active]
          rfl
    · rfl

theorem amendPath_cyclic (request : AmendRequest) :
    (amendPath request).Cyclic where
  pendingSource := rfl
  pendingReason := rfl
  completingSource response := by
    unfold ActionPath.completingMark
    split_ifs <;> rfl
  completingReason wiring exchange := by
    unfold executed
    split_ifs
    · cases active : exchange.activeOrders.lookup request.sequenceId with
      | none =>
          simp only [amendPath,
            ExchangeSimulator.amendOrder_of_inactive active]
          rfl
      | some order =>
          by_cases valid : ValidAmend request
          · simp only [amendPath,
              ExchangeSimulator.amendOrder_of_accepts active valid]
            rfl
          · obtain ⟨reason, given, _, _, result⟩ :=
              ExchangeSimulator.amendOrder_of_invalid active valid
            simp [amendPath, result, ActionPath.completingMark,
              Mark.reasonMissing, given]
    · rfl

section Outcomes

variable {Response : Type} {wiring : GatewayWiring} {venue : Venue}
  {path : ActionPath Response}

/-- The gateway after an action that reached the exchange. -/
def ActionPath.countResponse (path : ActionPath Response)
    (response : Response) (gateway : OrderGateway) : OrderGateway :=
  if path.accepted response then
    path.countAccepted (path.countSent gateway)
  else path.countRejected (path.countSent gateway)

/-- A refused pending transition stops an action before the exchange. -/
theorem sendAction_of_refused
    (attached : wiring.lifecycleTracker = true)
    {tracker : OrderLifecycleTracker}
    (refused :
      applyMark venue.lifecycleTracker path.sequenceId path.pendingMark =
        (false, tracker)) :
    sendAction wiring venue path =
      (path.refusal,
        { venue with
          gateway :=
            path.countRejected (countError (path.countSent venue.gateway))
          lifecycleTracker := tracker }) := by
  simp [sendAction, track, attached, refused]

/--
Once the pending transition has succeeded, the completing transition cannot
fail, whatever the exchange answers.
-/
theorem sendAction_of_legal
    (cyclic : path.Cyclic)
    (attached : wiring.lifecycleTracker = true)
    {record : OrderLifecycleRecord}
    (legal :
      Legal venue.lifecycleTracker path.sequenceId record
        path.pendingMark) :
    sendAction wiring venue path =
      ((executed wiring path venue.exchange).1,
        { gateway :=
            path.countResponse (executed wiring path venue.exchange).1
              venue.gateway
          exchange := (executed wiring path venue.exchange).2
          lifecycleTracker :=
            completed venue.lifecycleTracker path.sequenceId record
              path.pendingMark
              (path.completingMark
                (executed wiring path venue.exchange).1) }) := by
  have pending := applyMark_of_legal legal
  have completes :
      Legal
        (marked venue.lifecycleTracker path.sequenceId record
          path.pendingMark)
        path.sequenceId (path.pendingMark.moved record)
        (path.completingMark (executed wiring path venue.exchange).1) :=
    { found := Finmap.lookup_insert _
      state := by
        rw [Mark.moved_state, cyclic.completingSource]
      reason := cyclic.completingReason wiring venue.exchange }
  have completing := applyMark_of_legal completes
  simp only [sendAction, track, attached, pending, completing, completed,
    if_true, Bool.not_true, Bool.false_eq_true, if_false,
    ActionPath.countResponse]

/-- Without a tracker an action is the exchange call and two counters. -/
theorem sendAction_of_untracked
    (detached : wiring.lifecycleTracker = false) :
    sendAction wiring venue path =
      ((executed wiring path venue.exchange).1,
        { gateway :=
            path.countResponse (executed wiring path venue.exchange).1
              venue.gateway
          exchange := (executed wiring path venue.exchange).2
          lifecycleTracker := venue.lifecycleTracker }) := by
  simp [sendAction, track, detached, ActionPath.countResponse]

end Outcomes

end Llgw.Gateway
