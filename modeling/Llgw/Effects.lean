import Llgw.OrderAgreement
import Llgw.StepEffects

/-!
# The effects of a tracked system

A system whose pipeline and gateway share a tracker changes in eleven ways
only.  `Effect` lists them with their exact results and with what is seen of
them.  Each one keeps queue, tracker and exchange in agreement.
-/

namespace Llgw.Effects

open Llgw.Foundation
open Llgw.Foundation.KeyedStore
open Llgw.Foundation.LabelledTrace
open Llgw.Messages
open Llgw.Buffer
open Llgw.Risk
open Llgw.Exchange
open Llgw.Lifecycle
open Llgw.LifecycleMarks
open Llgw.Gateway
open Llgw.Pipeline
open Llgw.System
open Llgw.OrderAgreement
open Llgw.StepEffects

variable {capacity : ℕ+} {riskManager : Bool} {system : System capacity}

/-- Queue, tracker and exchange agree about every sequence id. -/
def Synchronised (system : System capacity) : Prop :=
  Agreement system.lifecycleTracker.stateOf system.queuedIds
    system.exchange.activeOrders.keys system.exchange.seenSequenceIds

/-! ## The states that effects lead to -/

/-- The state in which an iteration of `Drain` passes an order on. -/
def passedOn (riskManager : Bool) (system : System capacity) :
    System capacity :=
  let system := popped system (restBuffer system)
  { system with
    riskManager := passedManager (tracked riskManager) system.riskManager }

/-- The state after an action was refused by the tracker. -/
def refusedAction {Response : Type} (system : System capacity)
    (path : ActionPath Response) (error : LifecycleError) :
    System capacity :=
  { system with
    gateway :=
      path.countRejected (countError (path.countSent system.gateway))
    lifecycleTracker := failed system.lifecycleTracker error }

/-- The state after the exchange accepted a submission. -/
def acceptedOrder (system : System capacity) (order : OrderRequest)
    (record : OrderLifecycleRecord) : System capacity :=
  { system with
    gateway :=
      { system.gateway with
        ordersSent := system.gateway.ordersSent + 1
        ordersAccepted := system.gateway.ordersAccepted + 1 }
    exchange :=
      { seenSequenceIds :=
          insert order.sequenceId system.exchange.seenSequenceIds
        activeOrders :=
          system.exchange.activeOrders.insert order.sequenceId order }
    lifecycleTracker :=
      completed system.lifecycleTracker order.sequenceId record .sent
        .exchangeAccepted
    pipeline := countAccept system.pipeline }

/-- The state after the exchange refused a submission. -/
def rejectedOrder (system : System capacity) (order : OrderRequest)
    (record : OrderLifecycleRecord) (reason : OrderRejectReason) :
    System capacity :=
  { system with
    gateway :=
      { system.gateway with
        ordersSent := system.gateway.ordersSent + 1
        ordersRejected := system.gateway.ordersRejected + 1 }
    lifecycleTracker :=
      completed system.lifecycleTracker order.sequenceId record .sent
        (.exchangeRejected reason)
    pipeline := countGatewayReject system.pipeline }

/-- The state after the exchange cancelled an order. -/
def cancelledOrder (system : System capacity) (sequenceId : UInt64)
    (record : OrderLifecycleRecord) : System capacity :=
  { system with
    gateway :=
      { system.gateway with
        cancelsSent := system.gateway.cancelsSent + 1
        cancelsAccepted := system.gateway.cancelsAccepted + 1 }
    exchange :=
      { system.exchange with
        activeOrders := system.exchange.activeOrders.erase sequenceId }
    lifecycleTracker :=
      completed system.lifecycleTracker sequenceId record .cancelPending
        .cancelled }

/-- The state after the exchange amended an order. -/
def acceptedAmend (system : System capacity) (request : AmendRequest)
    (record : OrderLifecycleRecord) (order : OrderRequest) :
    System capacity :=
  { system with
    gateway :=
      { system.gateway with
        amendsSent := system.gateway.amendsSent + 1
        amendsAccepted := system.gateway.amendsAccepted + 1 }
    exchange :=
      { system.exchange with
        activeOrders :=
          system.exchange.activeOrders.insert request.sequenceId
            (amendedOrder order request) }
    lifecycleTracker :=
      completed system.lifecycleTracker request.sequenceId record
        .amendPending .amendAccepted }

/-- The state after the exchange refused an amendment. -/
def rejectedAmend (system : System capacity) (sequenceId : UInt64)
    (record : OrderLifecycleRecord) (reason : AmendRejectReason) :
    System capacity :=
  { system with
    gateway :=
      { system.gateway with
        amendsSent := system.gateway.amendsSent + 1
        amendsRejected := system.gateway.amendsRejected + 1 }
    lifecycleTracker :=
      completed system.lifecycleTracker sequenceId record .amendPending
        (.amendRejected reason) }

/-- The errors of a refused action. -/
def ActionError (error : LifecycleError) : Prop :=
  error ≠ .none ∧ error ≠ .duplicateOrder

/-- One change of a system with a tracker, and what is seen of it. -/
inductive Effect (riskManager : Bool) :
    System capacity → Observation → System capacity → Prop where
  /-- `Enqueue` of an id that has a record. -/
  | refusedAsKnown {system : System capacity} {request : OrderRequest}
      (known : request.sequenceId ∈ system.lifecycleTracker.records) :
      Effect riskManager system (.enqueued request false)
        (refusedAsKnown system)
  /-- `Enqueue` into a full buffer. -/
  | dropped {system : System capacity} {request : OrderRequest}
      (unknown : request.sequenceId ∉ system.lifecycleTracker.records)
      (full : system.pipeline.buffer.full = true) :
      Effect riskManager system (.enqueued request false) (dropped system)
  /-- `Enqueue` of a new id with room in the buffer. -/
  | joined {system : System capacity} {request : OrderRequest}
      (unknown : request.sequenceId ∉ system.lifecycleTracker.records)
      (room : system.pipeline.buffer.full = false) :
      Effect riskManager system (.enqueued request true)
        (joined (tracked riskManager) system request)
  /-- An iteration of `Drain` whose order fails the risk check. -/
  | refusedByRisk {system : System capacity} {order : OrderRequest}
      {rest : List OrderRequest} {record : OrderLifecycleRecord}
      {reason : RiskRejectReason}
      (queue : system.pipeline.buffer.contents = order :: rest)
      (found :
        system.lifecycleTracker.records.lookup order.sequenceId =
          some record)
      (checks : riskManager = true)
      (failure : system.riskManager.firstFailure order = some reason) :
      Effect riskManager system
        (.drained { order := order, outcome := .riskRejected reason })
        (refusedByRisk (tracked riskManager)
          (popped system (restBuffer system)) order record reason)
  /-- An iteration of `Drain` whose order the exchange accepts. -/
  | acceptedOrder {system : System capacity} {order : OrderRequest}
      {rest : List OrderRequest} {record : OrderLifecycleRecord}
      (queue : system.pipeline.buffer.contents = order :: rest)
      (found :
        system.lifecycleTracker.records.lookup order.sequenceId =
          some record)
      (passes :
        riskManager = true →
          system.riskManager.firstFailure order = none)
      (valid : ValidOrder order) :
      Effect riskManager system
        (.drained
          { order := order
            outcome :=
              .dispatched true (some .sent)
                { sequenceId := order.sequenceId, accepted := true,
                  rejectReason := .none } })
        (acceptedOrder (passedOn riskManager system) order record)
  /-- An iteration of `Drain` whose order the exchange refuses. -/
  | rejectedOrder {system : System capacity} {order : OrderRequest}
      {rest : List OrderRequest} {record : OrderLifecycleRecord}
      {reason : OrderRejectReason}
      (queue : system.pipeline.buffer.contents = order :: rest)
      (found :
        system.lifecycleTracker.records.lookup order.sequenceId =
          some record)
      (passes :
        riskManager = true →
          system.riskManager.firstFailure order = none)
      (invalid : ¬ ValidOrder order)
      (given : reason ≠ .none)
      (first : reason ≠ .duplicateSequence) :
      Effect riskManager system
        (.drained
          { order := order
            outcome :=
              .dispatched true (some .sent)
                { sequenceId := order.sequenceId, accepted := false,
                  rejectReason := reason } })
        (rejectedOrder (passedOn riskManager system) order record reason)
  /-- `SendCancel` of an order whose state does not allow it. -/
  | cancelRefused {system : System capacity} {request : CancelRequest}
      {error : LifecycleError}
      (illegal :
        system.lifecycleTracker.stateOf request.sequenceId ≠
          some .exchangeAccepted)
      (actionError : ActionError error) :
      Effect riskManager system
        (.cancelled request (cancelPath request).refusal)
        (refusedAction system (cancelPath request) error)
  /-- `SendCancel` of an accepted order. -/
  | cancelledOrder {system : System capacity} {request : CancelRequest}
      {record : OrderLifecycleRecord}
      (found :
        system.lifecycleTracker.records.lookup request.sequenceId =
          some record)
      (accepted : record.state = .exchangeAccepted) :
      Effect riskManager system
        (.cancelled request
          { sequenceId := request.sequenceId, accepted := true,
            rejectReason := .none })
        (cancelledOrder system request.sequenceId record)
  /-- `SendAmend` of an order whose state does not allow it. -/
  | amendRefused {system : System capacity} {request : AmendRequest}
      {error : LifecycleError}
      (illegal :
        system.lifecycleTracker.stateOf request.sequenceId ≠
          some .exchangeAccepted)
      (actionError : ActionError error) :
      Effect riskManager system
        (.amended request (amendPath request).refusal)
        (refusedAction system (amendPath request) error)
  /-- `SendAmend` of an accepted order to valid terms. -/
  | acceptedAmend {system : System capacity} {request : AmendRequest}
      {record : OrderLifecycleRecord} {order : OrderRequest}
      (found :
        system.lifecycleTracker.records.lookup request.sequenceId =
          some record)
      (accepted : record.state = .exchangeAccepted)
      (active :
        system.exchange.activeOrders.lookup request.sequenceId =
          some order)
      (valid : ValidAmend request) :
      Effect riskManager system
        (.amended request
          { sequenceId := request.sequenceId, accepted := true,
            rejectReason := .none })
        (acceptedAmend system request record order)
  /-- `SendAmend` of an accepted order to invalid terms. -/
  | rejectedAmend {system : System capacity} {request : AmendRequest}
      {record : OrderLifecycleRecord} {reason : AmendRejectReason}
      (found :
        system.lifecycleTracker.records.lookup request.sequenceId =
          some record)
      (accepted : record.state = .exchangeAccepted)
      (given : reason ≠ .none)
      (active : reason ≠ .unknownOrder)
      (permitted : reason ≠ .invalidState) :
      Effect riskManager system
        (.amended request
          { sequenceId := request.sequenceId, accepted := false,
            rejectReason := reason })
        (rejectedAmend system request.sequenceId record reason)

/-! ## Synchronised systems -/

theorem Synchronised.fresh (limits : RiskLimits) (journal : Bool) :
    Synchronised (fresh limits journal : System capacity) :=
  Agreement.initial

theorem Synchronised.active_iff (synchronised : Synchronised system)
    (sequenceId : UInt64) :
    sequenceId ∈ system.exchange.activeOrders ↔
      system.lifecycleTracker.stateOf sequenceId =
        some .exchangeAccepted := by
  rw [← Agreement.active_iff synchronised, Finmap.mem_keys]

theorem Synchronised.seen_iff (synchronised : Synchronised system)
    (sequenceId : UInt64) :
    sequenceId ∈ system.exchange.seenSequenceIds ↔
      system.lifecycleTracker.stateOf sequenceId =
          some .exchangeAccepted ∨
        system.lifecycleTracker.stateOf sequenceId = some .cancelled :=
  Agreement.seen_iff synchronised sequenceId

theorem queuedIds_of_contents {order : OrderRequest}
    {rest : List OrderRequest}
    (queue : system.pipeline.buffer.contents = order :: rest) :
    system.queuedIds =
      order.sequenceId :: rest.map OrderRequest.sequenceId := by
  rw [System.queuedIds, queue, List.map_cons]

theorem Synchronised.agreement_head (synchronised : Synchronised system)
    {order : OrderRequest} {rest : List OrderRequest}
    (queue : system.pipeline.buffer.contents = order :: rest) :
    Agreement system.lifecycleTracker.stateOf
      (order.sequenceId :: rest.map OrderRequest.sequenceId)
      system.exchange.activeOrders.keys
      system.exchange.seenSequenceIds := by
  rw [← queuedIds_of_contents queue]
  exact synchronised

/-- The head of the queue has a record, and it is queued. -/
theorem Synchronised.waiting (synchronised : Synchronised system)
    {order : OrderRequest} {rest : List OrderRequest}
    (queue : system.pipeline.buffer.contents = order :: rest) :
    ∃ record,
      system.lifecycleTracker.records.lookup order.sequenceId =
          some record ∧
        record.state = .queued :=
  (stateOf_eq_some_iff _ _).mp
    (synchronised.agreement_head queue).head_queued

/-- An order that waits in the queue has never been accepted. -/
theorem Synchronised.unseen (synchronised : Synchronised system)
    {order : OrderRequest} {rest : List OrderRequest}
    (queue : system.pipeline.buffer.contents = order :: rest) :
    order.sequenceId ∉ system.exchange.seenSequenceIds :=
  (synchronised.agreement_head queue).notMem_seen_of_head

theorem Synchronised.inactive (synchronised : Synchronised system)
    {order : OrderRequest} {rest : List OrderRequest}
    (queue : system.pipeline.buffer.contents = order :: rest) :
    order.sequenceId ∉ system.exchange.activeOrders := by
  rw [← Finmap.mem_keys]
  exact (synchronised.agreement_head queue).notMem_active_of_head

/-- An accepted record belongs to an active order. -/
theorem Synchronised.active (synchronised : Synchronised system)
    {sequenceId : UInt64} {record : OrderLifecycleRecord}
    (found :
      system.lifecycleTracker.records.lookup sequenceId = some record)
    (accepted : record.state = .exchangeAccepted) :
    ∃ order,
      system.exchange.activeOrders.lookup sequenceId = some order := by
  have state :
      system.lifecycleTracker.stateOf sequenceId =
        some .exchangeAccepted :=
    (stateOf_eq_some_iff _ _).mpr ⟨record, found, accepted⟩
  exact Finmap.mem_iff.mp ((synchronised.active_iff sequenceId).mpr state)

/-! ## Every effect keeps the agreement -/

theorem Synchronised.joined (synchronised : Synchronised system)
    {request : OrderRequest}
    (unknown : request.sequenceId ∉ system.lifecycleTracker.records)
    (room : system.pipeline.buffer.full = false) :
    Synchronised (joined (tracked riskManager) system request) := by
  have queue :
      (StepEffects.joined (tracked riskManager) system
          request).queuedIds =
        system.queuedIds ++ [request.sequenceId] := by
    simp only [System.queuedIds, StepEffects.joined,
      RingBuffer.contents_push room, List.map_append, List.map_cons,
      List.map_nil]
  have phases :
      (StepEffects.joined (tracked riskManager) system
          request).lifecycleTracker.stateOf =
        Function.update system.lifecycleTracker.stateOf
          request.sequenceId (some .queued) :=
    stateOf_enqueued _ _
  rw [Synchronised, queue, phases]
  exact Agreement.join synchronised
    ((stateOf_eq_none_iff _ _).mpr unknown)

theorem Synchronised.refusedByRisk (synchronised : Synchronised system)
    {order : OrderRequest} {rest : List OrderRequest}
    (queue : system.pipeline.buffer.contents = order :: rest)
    (record : OrderLifecycleRecord) (reason : RiskRejectReason) :
    Synchronised
      (refusedByRisk (tracked riskManager)
        (popped system (restBuffer system)) order record reason) := by
  have result := (synchronised.agreement_head queue).refuse (Or.inl rfl)
  have phases :
      (StepEffects.refusedByRisk (tracked riskManager)
          (popped system (restBuffer system)) order record
          reason).lifecycleTracker.stateOf =
        Function.update system.lifecycleTracker.stateOf order.sequenceId
          (some .riskRejected) :=
    stateOf_marked _ _ _ _
  rw [← contents_restBuffer queue] at result
  rw [Synchronised, phases]
  exact result

theorem Synchronised.acceptedOrder (synchronised : Synchronised system)
    {order : OrderRequest} {rest : List OrderRequest}
    (queue : system.pipeline.buffer.contents = order :: rest)
    (record : OrderLifecycleRecord) :
    Synchronised
      (acceptedOrder (passedOn riskManager system) order record) := by
  have result := (synchronised.agreement_head queue).accept
  have phases :
      (Effects.acceptedOrder (passedOn riskManager system) order
          record).lifecycleTracker.stateOf =
        Function.update system.lifecycleTracker.stateOf order.sequenceId
          (some .exchangeAccepted) :=
    stateOf_completed _ _ _ _ _
  rw [← keys_insert _ _ order, ← contents_restBuffer queue] at result
  rw [Synchronised, phases]
  exact result

theorem Synchronised.rejectedOrder (synchronised : Synchronised system)
    {order : OrderRequest} {rest : List OrderRequest}
    (queue : system.pipeline.buffer.contents = order :: rest)
    (record : OrderLifecycleRecord) (reason : OrderRejectReason) :
    Synchronised
      (rejectedOrder (passedOn riskManager system) order record
        reason) := by
  have result := (synchronised.agreement_head queue).refuse (Or.inr rfl)
  have phases :
      (Effects.rejectedOrder (passedOn riskManager system) order record
          reason).lifecycleTracker.stateOf =
        Function.update system.lifecycleTracker.stateOf order.sequenceId
          (some .exchangeRejected) :=
    stateOf_completed _ _ _ _ _
  rw [← contents_restBuffer queue] at result
  rw [Synchronised, phases]
  exact result

section Actions

variable {sequenceId : UInt64} {record : OrderLifecycleRecord}
  (found : system.lifecycleTracker.records.lookup sequenceId = some record)
  (accepted : record.state = .exchangeAccepted)
include found accepted

theorem Synchronised.cancelledOrder (synchronised : Synchronised system) :
    Synchronised (cancelledOrder system sequenceId record) := by
  have state :
      system.lifecycleTracker.stateOf sequenceId =
        some .exchangeAccepted :=
    (stateOf_eq_some_iff _ _).mpr ⟨record, found, accepted⟩
  have result := Agreement.cancel synchronised state
  have phases :
      (Effects.cancelledOrder system sequenceId
          record).lifecycleTracker.stateOf =
        Function.update system.lifecycleTracker.stateOf sequenceId
          (some .cancelled) :=
    stateOf_completed _ _ _ _ _
  rw [← Finmap.keys_erase] at result
  rw [Synchronised, phases]
  exact result

/-- A completed amendment, accepted or not, returns to the same phase. -/
theorem stateOf_completed_amend
    {second : Mark} (returns : second.target = .exchangeAccepted) :
    (completed system.lifecycleTracker sequenceId record .amendPending
        second).stateOf =
      system.lifecycleTracker.stateOf := by
  have state :
      system.lifecycleTracker.stateOf sequenceId =
        some .exchangeAccepted :=
    (stateOf_eq_some_iff _ _).mpr ⟨record, found, accepted⟩
  rw [stateOf_completed, returns, ← state, Function.update_eq_self]

theorem Synchronised.rejectedAmend (synchronised : Synchronised system)
    (reason : AmendRejectReason) :
    Synchronised (rejectedAmend system sequenceId record reason) := by
  have phases :
      (Effects.rejectedAmend system sequenceId record
          reason).lifecycleTracker.stateOf =
        system.lifecycleTracker.stateOf :=
    stateOf_completed_amend found accepted rfl
  rw [Synchronised, phases]
  exact synchronised

end Actions

theorem Synchronised.acceptedAmend (synchronised : Synchronised system)
    {request : AmendRequest} {record : OrderLifecycleRecord}
    {order : OrderRequest}
    (found :
      system.lifecycleTracker.records.lookup request.sequenceId =
        some record)
    (accepted : record.state = .exchangeAccepted)
    (active :
      system.exchange.activeOrders.lookup request.sequenceId =
        some order) :
    Synchronised (acceptedAmend system request record order) := by
  have phases :
      (Effects.acceptedAmend system request record
          order).lifecycleTracker.stateOf =
        system.lifecycleTracker.stateOf :=
    stateOf_completed_amend found accepted rfl
  have keys :
      (Effects.acceptedAmend system request record
          order).exchange.activeOrders.keys =
        system.exchange.activeOrders.keys := by
    rw [Effects.acceptedAmend, keys_insert, Finset.insert_eq_of_mem]
    exact Finmap.mem_keys.mpr (Finmap.mem_of_lookup_eq_some active)
  rw [Synchronised, phases, keys]
  exact synchronised

/-- The step lemma: one effect keeps a system synchronised. -/
theorem Effect.synchronised {observation : Observation}
    {next : System capacity}
    (effect : Effect riskManager system observation next)
    (synchronised : Synchronised system) : Synchronised next := by
  cases effect with
  | refusedAsKnown => exact synchronised
  | dropped => exact synchronised
  | joined unknown room => exact synchronised.joined unknown room
  | refusedByRisk queue => exact synchronised.refusedByRisk queue _ _
  | acceptedOrder queue => exact synchronised.acceptedOrder queue _
  | rejectedOrder queue => exact synchronised.rejectedOrder queue _ _
  | cancelRefused => exact synchronised
  | cancelledOrder found accepted =>
      exact Synchronised.cancelledOrder found accepted synchronised
  | amendRefused => exact synchronised
  | acceptedAmend found accepted active =>
      exact synchronised.acceptedAmend found accepted active
  | rejectedAmend found accepted =>
      exact Synchronised.rejectedAmend found accepted synchronised _

end Llgw.Effects
