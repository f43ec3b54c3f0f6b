import Llgw.System

/-!
# What one call does

Exact results of `Enqueue` and of an iteration of `Drain` when no lifecycle
transition is refused.  They hold with a tracker, whose record is then in the
state the transition expects, and equally without one.  Results about whole
runs are derived from these and from the action lemmas of the gateway.
-/

namespace Llgw.StepEffects

open Llgw.Foundation.KeyedStore
open Llgw.Messages
open Llgw.Buffer
open Llgw.Risk
open Llgw.Exchange
open Llgw.Lifecycle
open Llgw.LifecycleMarks
open Llgw.Gateway
open Llgw.Pipeline
open Llgw.System

variable {capacity : ℕ+} {wiring : Wiring} {system : System capacity}

/-! ## Enqueue -/

/-- The state after an order is refused because its id has a record. -/
def refusedAsKnown (system : System capacity) : System capacity :=
  { system with
    pipeline :=
      { system.pipeline with
        ordersRejectedByLifecycleOnEnqueue :=
          system.pipeline.ordersRejectedByLifecycleOnEnqueue + 1 } }

/-- The state after an order is dropped because the buffer is full. -/
def dropped (system : System capacity) : System capacity :=
  { system with
    pipeline :=
      { system.pipeline with
        ordersDroppedOnEnqueue :=
          system.pipeline.ordersDroppedOnEnqueue + 1 } }

/-- The state after a new order is queued and, with a tracker, registered. -/
def joined (wiring : Wiring) (system : System capacity)
    (request : OrderRequest) : System capacity :=
  { system with
    lifecycleTracker :=
      if wiring.lifecycleTracker then
        enqueued system.lifecycleTracker request.sequenceId
      else system.lifecycleTracker
    pipeline :=
      { system.pipeline with
        buffer := (system.pipeline.buffer.push request).2
        ordersEnqueued := system.pipeline.ordersEnqueued + 1 } }

/-- Either the id of an order has a record, or nothing forbids it. -/
theorem enqueue_cases (wiring : Wiring) (system : System capacity)
    (request : OrderRequest) :
    (wiring.lifecycleTracker = true ∧
        request.sequenceId ∈ system.lifecycleTracker.records) ∨
      (wiring.lifecycleTracker = true →
        request.sequenceId ∉ system.lifecycleTracker.records) := by
  by_cases known : request.sequenceId ∈ system.lifecycleTracker.records
  · cases tracker : wiring.lifecycleTracker with
    | false => exact Or.inr fun contradictory => nomatch contradictory
    | true => exact Or.inl ⟨rfl, known⟩
  · exact Or.inr fun _ => known

theorem enqueue_of_known
    {request : OrderRequest}
    (attached : wiring.lifecycleTracker = true)
    (known : request.sequenceId ∈ system.lifecycleTracker.records) :
    enqueue wiring system request = (false, refusedAsKnown system) := by
  simp [enqueue, attached, OrderLifecycleTracker.contains, known,
    refusedAsKnown]

section New

variable {request : OrderRequest}
  (unknown :
    wiring.lifecycleTracker = true →
      request.sequenceId ∉ system.lifecycleTracker.records)
include unknown

theorem enqueue_of_full
    (full : system.pipeline.buffer.full = true) :
    enqueue wiring system request = (false, dropped system) := by
  have known :
      ¬ (wiring.lifecycleTracker &&
        system.lifecycleTracker.contains request.sequenceId) = true := by
    simpa using unknown
  simp [enqueue, known, RingBuffer.push_of_full full, dropped]

theorem enqueue_of_room
    (room : system.pipeline.buffer.full = false) :
    enqueue wiring system request = (true, joined wiring system request) := by
  have known :
      ¬ (wiring.lifecycleTracker &&
        system.lifecycleTracker.contains request.sequenceId) = true := by
    simpa using unknown
  have pushed : (system.pipeline.buffer.push request).1 = true := by
    rw [RingBuffer.push_fst, room]
    rfl
  simp only [enqueue, if_neg known, pushed, Bool.not_true,
    Bool.false_eq_true, if_false, register, joined]
  cases attached : wiring.lifecycleTracker with
  | false => simp
  | true => simp [registerQueued_of_unknown (unknown attached)]

end New

/-! ## An iteration of Drain -/

/-- The tracker after a legal transition, if there is a tracker. -/
def markedIf (attached : Bool) (tracker : OrderLifecycleTracker)
    (sequenceId : UInt64) (record : OrderLifecycleRecord) (mark : Mark) :
    OrderLifecycleTracker :=
  if attached then marked tracker sequenceId record mark else tracker

/-- A legal transition by the pipeline counts no error. -/
theorem notify_of_legal
    {sequenceId : UInt64} {mark : Mark} (record : OrderLifecycleRecord)
    (legal :
      wiring.lifecycleTracker = true →
        Legal system.lifecycleTracker sequenceId record mark) :
    notify wiring system sequenceId mark =
      { system with
        lifecycleTracker :=
          markedIf wiring.lifecycleTracker system.lifecycleTracker
            sequenceId record mark } := by
  cases attached : wiring.lifecycleTracker with
  | false => simp [notify, track, attached, markedIf]
  | true =>
      simp [notify, track, attached, markedIf,
        applyMark_of_legal (legal attached)]

/-- The record of an order that waits in the queue, if there is a tracker. -/
structure Waiting (wiring : Wiring) (tracker : OrderLifecycleTracker)
    (sequenceId : UInt64) (record : OrderLifecycleRecord) : Prop where
  found :
    wiring.lifecycleTracker = true →
      tracker.records.lookup sequenceId = some record
  queued : wiring.lifecycleTracker = true → record.state = .queued

/-- Without a tracker nothing is required of a record. -/
theorem Waiting.of_detached
    (detached : wiring.lifecycleTracker = false)
    (tracker : OrderLifecycleTracker) (sequenceId : UInt64)
    (record : OrderLifecycleRecord) :
    Waiting wiring tracker sequenceId record where
  found attached := absurd (detached.symm.trans attached) Bool.false_ne_true
  queued attached := absurd (detached.symm.trans attached) Bool.false_ne_true

theorem Waiting.legal
    {tracker : OrderLifecycleTracker} {sequenceId : UInt64}
    {record : OrderLifecycleRecord}
    (waiting : Waiting wiring tracker sequenceId record)
    (mark : Mark)
    (source : mark.source = .queued)
    (reason : mark.reasonMissing = false)
    (attached : wiring.lifecycleTracker = true) :
    Legal tracker sequenceId record mark where
  found := waiting.found attached
  state := (waiting.queued attached).trans source.symm
  reason := reason

/-- The state after the risk check has refused an order. -/
def refusedByRisk (wiring : Wiring) (system : System capacity)
    (order : OrderRequest) (record : OrderLifecycleRecord)
    (reason : RiskRejectReason) : System capacity :=
  { system with
    lifecycleTracker :=
      markedIf wiring.lifecycleTracker system.lifecycleTracker
        order.sequenceId record (.riskRejected reason)
    riskManager := system.riskManager.afterReject reason
    pipeline := countRiskReject reason system.pipeline }

/-- An order that fails the risk check is marked and goes no further. -/
theorem drainOrder_of_failure
    {order : OrderRequest} {record : OrderLifecycleRecord}
    {reason : RiskRejectReason}
    (checks : wiring.riskManager = true)
    (failure : system.riskManager.firstFailure order = some reason)
    (waiting :
      Waiting wiring system.lifecycleTracker order.sequenceId record) :
    drainOrder wiring system order =
      (.riskRejected reason,
        refusedByRisk wiring system order record reason) := by
  have given : (Mark.riskRejected reason).reasonMissing = false := by
    simpa [Mark.reasonMissing] using
      PreTradeRiskManager.firstFailure_ne_none failure
  simp only [drainOrder, checks, if_true,
    PreTradeRiskManager.check_of_failure failure, Bool.not_false]
  rw [notify_of_legal record]
  · rfl
  · exact waiting.legal (.riskRejected reason) rfl given

/-- The gateway after the response to a submission. -/
def countSubmission (response : OrderResponse) (gateway : OrderGateway) :
    OrderGateway :=
  if response.accepted then
    { gateway with
      ordersSent := gateway.ordersSent + 1
      ordersAccepted := gateway.ordersAccepted + 1 }
  else
    { gateway with
      ordersSent := gateway.ordersSent + 1
      ordersRejected := gateway.ordersRejected + 1 }

/-- The pipeline after the response to a submission. -/
def countOutcome (response : OrderResponse)
    (pipeline : OrderPipeline capacity) : OrderPipeline capacity :=
  if response.accepted then countAccept pipeline
  else countGatewayReject pipeline

theorem sendOrder_of_exchange
    {venue : Venue} {gateway : GatewayWiring}
    (exchange : gateway.exchange = true) (request : OrderRequest) :
    sendOrder gateway venue request =
      ((venue.exchange.submitOrder request).1,
        { venue with
          gateway :=
            countSubmission (venue.exchange.submitOrder request).1
              venue.gateway
          exchange := (venue.exchange.submitOrder request).2 }) := by
  simp only [sendOrder, exchange, Bool.not_true, Bool.false_eq_true,
    if_false, countSubmission]

/-- The completing transition of a submission always has its reason. -/
theorem responseMark_reason
    (exchange : ExchangeSimulator) (request : OrderRequest) :
    (responseMark
      (exchange.submitOrder request).1).reasonMissing = false := by
  by_cases passes :
      ValidOrder request ∧ request.sequenceId ∉ exchange.seenSequenceIds
  · rw [ExchangeSimulator.submitOrder_of_accepts passes.1 passes.2]
    rfl
  · obtain ⟨reason, given, _, result⟩ :=
      ExchangeSimulator.submitOrder_of_rejects passes
    simpa [result, responseMark, Mark.reasonMissing] using given

theorem responseMark_source (response : OrderResponse) :
    (responseMark response).source = .sent := by
  unfold responseMark
  split_ifs <;> rfl

/-- The state after an order has been submitted and answered. -/
def submitted (wiring : Wiring) (system : System capacity)
    (order : OrderRequest) (record : OrderLifecycleRecord) :
    System capacity :=
  let response := (system.exchange.submitOrder order).1
  { system with
    gateway := countSubmission response system.gateway
    exchange := (system.exchange.submitOrder order).2
    lifecycleTracker :=
      if wiring.lifecycleTracker then
        completed system.lifecycleTracker order.sequenceId record .sent
          (responseMark response)
      else system.lifecycleTracker
    pipeline := countOutcome response system.pipeline }

/--
A waiting order that reaches `dispatch` is marked sent, submitted, and marked
again with the response.
-/
theorem dispatch_of_waiting
    {order : OrderRequest} {record : OrderLifecycleRecord}
    (gateway : wiring.gateway = true)
    (connected : wiring.venue.exchange = true)
    (waiting :
      Waiting wiring system.lifecycleTracker order.sequenceId record) :
    dispatch wiring system order =
      (.dispatched true
          ((markedIf wiring.lifecycleTracker system.lifecycleTracker
            order.sequenceId record .sent).stateOf order.sequenceId)
          (system.exchange.submitOrder order).1,
        submitted wiring system order record) := by
  have sent := waiting.legal .sent rfl rfl
  have ok :
      (track wiring.lifecycleTracker order.sequenceId .sent
        system.lifecycleTracker).1 = true := by
    cases attached : wiring.lifecycleTracker with
    | false => rfl
    | true => simp [track, applyMark_of_legal (sent attached)]
  simp only [dispatch, gateway, Bool.not_true, Bool.false_eq_true, if_false,
    ok, notify_of_legal record sent, sendOrder_of_exchange connected]
  rw [notify_of_legal (Mark.sent.moved record)]
  · cases attached : wiring.lifecycleTracker with
    | false => simp [submitted, attached, markedIf, countOutcome]
    | true => simp [submitted, attached, markedIf, countOutcome, completed]
  · intro attached
    exact
      { found := by
          simp only [markedIf, attached, if_true]
          exact Finmap.lookup_insert _
        state := by rw [Mark.moved_state, responseMark_source]; rfl
        reason := responseMark_reason system.exchange order }

/-- The risk manager after an order that was not refused by it. -/
def passedManager (wiring : Wiring) (manager : PreTradeRiskManager) :
    PreTradeRiskManager :=
  if wiring.riskManager then manager.afterAccept else manager

theorem passedManager_firstFailure (wiring : Wiring)
    (manager : PreTradeRiskManager) :
    (passedManager wiring manager).firstFailure = manager.firstFailure := by
  unfold passedManager
  split_ifs <;> rfl

/-- A risk check, if there is one, lets the order through to `dispatch`. -/
theorem drainOrder_of_pass
    {order : OrderRequest}
    (passes :
      wiring.riskManager = true →
        system.riskManager.firstFailure order = none) :
    drainOrder wiring system order =
      dispatch wiring
        { system with
          riskManager := passedManager wiring system.riskManager }
        order := by
  cases checks : wiring.riskManager with
  | false => simp [drainOrder, checks, passedManager]
  | true =>
      simp [drainOrder, checks, passedManager,
        PreTradeRiskManager.check_of_accepts (passes checks)]

end Llgw.StepEffects
