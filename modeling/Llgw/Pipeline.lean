import Llgw.Buffer
import Llgw.Gateway

/-!
# The order pipeline

`OrderPipeline<Capacity>` of `order_pipeline.hpp`, together with the objects
its pointers refer to.  `Drain` is a loop over `drainStep`; besides the count
that the source returns, the model records which calls an iteration made, so
that dispatch can be spoken about.
-/

namespace Llgw.Pipeline

open Llgw.Messages
open Llgw.Buffer
open Llgw.Risk
open Llgw.Exchange
open Llgw.Lifecycle
open Llgw.LifecycleMarks
open Llgw.Gateway

/-- Which pointers a pipeline and its gateway were constructed with. -/
structure Wiring where
  venue : GatewayWiring
  gateway : Bool
  riskManager : Bool
  lifecycleTracker : Bool
deriving DecidableEq

structure OrderPipeline (capacity : ℕ+) where
  buffer : RingBuffer OrderRequest capacity := .fresh
  ordersEnqueued : Nat := 0
  ordersDroppedOnEnqueue : Nat := 0
  ordersRejectedByLifecycleOnEnqueue : Nat := 0
  ordersDrained : Nat := 0
  ordersAccepted : Nat := 0
  ordersRejected : Nat := 0
  ordersRejectedByRisk : Nat := 0
  ordersRejectedByGateway : Nat := 0
  lifecycleTransitionErrors : Nat := 0
  lastRiskRejectReason : RiskRejectReason := .none

/-- A pipeline with every object it may reach. -/
structure System (capacity : ℕ+) extends Venue where
  riskManager : PreTradeRiskManager
  pipeline : OrderPipeline capacity := {}

variable {capacity : ℕ+}

/-- The sequence ids that wait in the buffer, in queue order. -/
def System.queuedIds (system : System capacity) : List UInt64 :=
  system.pipeline.buffer.contents.map OrderRequest.sequenceId

/-- A transition by the pipeline, which counts a refusal as an error. -/
def notify (wiring : Wiring) (system : System capacity)
    (sequenceId : UInt64) (mark : Mark) : System capacity :=
  let result :=
    track wiring.lifecycleTracker sequenceId mark system.lifecycleTracker
  { system with
    lifecycleTracker := result.2
    pipeline :=
      if !result.1 then
        { system.pipeline with
          lifecycleTransitionErrors :=
            system.pipeline.lifecycleTransitionErrors + 1 }
      else system.pipeline }

/-- The registration by `Enqueue`, which counts a refusal as an error. -/
def register (wiring : Wiring) (system : System capacity)
    (sequenceId : UInt64) : System capacity :=
  let result :=
    if wiring.lifecycleTracker then
      system.lifecycleTracker.registerQueued sequenceId
    else (true, system.lifecycleTracker)
  { system with
    lifecycleTracker := result.2
    pipeline :=
      if !result.1 then
        { system.pipeline with
          lifecycleTransitionErrors :=
            system.pipeline.lifecycleTransitionErrors + 1 }
      else system.pipeline }

/-- `OrderPipeline::Enqueue`. -/
def enqueue (wiring : Wiring) (system : System capacity)
    (request : OrderRequest) : Bool × System capacity :=
  let pipeline := system.pipeline
  if wiring.lifecycleTracker &&
      system.lifecycleTracker.contains request.sequenceId then
    (false,
      { system with
        pipeline :=
          { pipeline with
            ordersRejectedByLifecycleOnEnqueue :=
              pipeline.ordersRejectedByLifecycleOnEnqueue + 1 } })
  else
    let pushed := pipeline.buffer.push request
    if !pushed.1 then
      (false,
        { system with
          pipeline :=
            { pipeline with
              ordersDroppedOnEnqueue :=
                pipeline.ordersDroppedOnEnqueue + 1 } })
    else
      (true,
        register wiring
          { system with
            pipeline :=
              { pipeline with
                buffer := pushed.2
                ordersEnqueued := pipeline.ordersEnqueued + 1 } }
          request.sequenceId)

/-! ## One iteration of `Drain` -/

/-- What an iteration of `Drain` did with the order it popped. -/
inductive DrainOutcome where
  /-- `Check` refused the order. -/
  | riskRejected (reason : RiskRejectReason)
  /-- The gateway pointer is null. -/
  | noGateway
  /--
  The order was passed to `SendOrder`: whether `MarkSent` had succeeded, the
  lifecycle state at that moment, and the response.
  -/
  | dispatched (markSent : Bool) (state : Option OrderLifecycleState)
      (response : OrderResponse)
deriving DecidableEq

structure DrainCall where
  order : OrderRequest
  outcome : DrainOutcome
deriving DecidableEq

/-- An order that reached the exchange and was refused there. -/
def countGatewayReject (pipeline : OrderPipeline capacity) :
    OrderPipeline capacity :=
  { pipeline with
    ordersRejected := pipeline.ordersRejected + 1
    ordersRejectedByGateway := pipeline.ordersRejectedByGateway + 1 }

/-- An order that was refused by the risk manager. -/
def countRiskReject (reason : RiskRejectReason)
    (pipeline : OrderPipeline capacity) : OrderPipeline capacity :=
  { pipeline with
    ordersRejected := pipeline.ordersRejected + 1
    ordersRejectedByRisk := pipeline.ordersRejectedByRisk + 1
    lastRiskRejectReason := reason }

/-- An order that the exchange accepted. -/
def countAccept (pipeline : OrderPipeline capacity) :
    OrderPipeline capacity :=
  { pipeline with ordersAccepted := pipeline.ordersAccepted + 1 }

/-- The transition that a response of the gateway calls for. -/
def responseMark (response : OrderResponse) : Mark :=
  if response.accepted then .exchangeAccepted
  else .exchangeRejected response.rejectReason

/-- The part of an iteration from `MarkSent` on. -/
def dispatch (wiring : Wiring) (system : System capacity)
    (order : OrderRequest) : DrainOutcome × System capacity :=
  let markSent :=
    (track wiring.lifecycleTracker order.sequenceId .sent
      system.lifecycleTracker).1
  let system := notify wiring system order.sequenceId .sent
  if !wiring.gateway then
    (.noGateway,
      notify wiring
        { system with pipeline := countGatewayReject system.pipeline }
        order.sequenceId (.exchangeRejected .invalidSymbol))
  else
    let sent := sendOrder wiring.venue system.toVenue order
    (.dispatched markSent
        (system.lifecycleTracker.stateOf order.sequenceId) sent.1,
      notify wiring
        { system with
          toVenue := sent.2
          pipeline :=
            if sent.1.accepted then countAccept system.pipeline
            else countGatewayReject system.pipeline }
        order.sequenceId (responseMark sent.1))

/-- The part of an iteration after `Pop`. -/
def drainOrder (wiring : Wiring) (system : System capacity)
    (order : OrderRequest) : DrainOutcome × System capacity :=
  if wiring.riskManager then
    let checked := system.riskManager.check order
    let system := { system with riskManager := checked.2 }
    if !checked.1.accepted then
      (.riskRejected checked.1.rejectReason,
        notify wiring
          { system with
            pipeline :=
              countRiskReject checked.1.rejectReason system.pipeline }
          order.sequenceId (.riskRejected checked.1.rejectReason))
    else dispatch wiring system order
  else dispatch wiring system order

/-- Take the popped order out of the buffer and count it. -/
def popped (system : System capacity)
    (buffer : RingBuffer OrderRequest capacity) : System capacity :=
  { system with
    pipeline :=
      { system.pipeline with
        buffer := buffer
        ordersDrained := system.pipeline.ordersDrained + 1 } }

/-- One iteration of the loop of `Drain`; `none` is its `break`. -/
def drainStep (wiring : Wiring) (system : System capacity) :
    Option (DrainCall × System capacity) :=
  let taken := system.pipeline.buffer.pop
  match taken.1 with
  | none => none
  | some order =>
      let processed := drainOrder wiring (popped system taken.2) order
      some ({ order := order, outcome := processed.1 }, processed.2)

/-- The result of a drain: the returned count, the calls made, the state. -/
structure DrainResult (capacity : ℕ+) where
  drainedNow : Nat
  calls : List DrainCall
  system : System capacity

/-- The loop of `Drain`, cut off after `fuel` iterations. -/
def drainLoop (wiring : Wiring) :
    Nat → System capacity → DrainResult capacity
  | 0, system => { drainedNow := 0, calls := [], system := system }
  | fuel + 1, system =>
      match drainStep wiring system with
      | none => { drainedNow := 0, calls := [], system := system }
      | some (call, next) =>
          let later := drainLoop wiring fuel next
          { drainedNow := later.drainedNow + 1
            calls := call :: later.calls
            system := later.system }

/--
`OrderPipeline::Drain`.  The loop ends by itself within this many iterations:
see `drain_trace`.
-/
def drain (wiring : Wiring) (system : System capacity) :
    DrainResult capacity :=
  drainLoop wiring (system.pipeline.buffer.size + 1) system

/-! ## The loop as a trace -/

/-- The complete iterations of a drain, ending with an empty buffer. -/
inductive DrainTrace (wiring : Wiring) :
    System capacity → List DrainCall → System capacity → Prop where
  | done {system : System capacity}
      (drained : system.pipeline.buffer.contents = []) :
      DrainTrace wiring system [] system
  | step {system next final : System capacity}
      {call : DrainCall} {calls : List DrainCall}
      (head : drainStep wiring system = some (call, next))
      (tail : DrainTrace wiring next calls final) :
      DrainTrace wiring system (call :: calls) final

@[simp]
theorem notify_buffer (wiring : Wiring) (system : System capacity)
    (sequenceId : UInt64) (mark : Mark) :
    (notify wiring system sequenceId mark).pipeline.buffer =
      system.pipeline.buffer := by
  simp only [notify]
  split_ifs <;> rfl

@[simp]
theorem dispatch_buffer (wiring : Wiring) (system : System capacity)
    (order : OrderRequest) :
    (dispatch wiring system order).2.pipeline.buffer =
      system.pipeline.buffer := by
  unfold dispatch
  split_ifs
  · simp [countGatewayReject]
  · simp only [notify_buffer]
    split_ifs <;> simp [countAccept, countGatewayReject]

/-- Processing an order does not touch the buffer. -/
@[simp]
theorem drainOrder_buffer (wiring : Wiring) (system : System capacity)
    (order : OrderRequest) :
    (drainOrder wiring system order).2.pipeline.buffer =
      system.pipeline.buffer := by
  simp only [drainOrder]
  split_ifs
  · simp [countRiskReject]
  · simp
  · simp

@[simp]
theorem notify_ordersDrained (wiring : Wiring) (system : System capacity)
    (sequenceId : UInt64) (mark : Mark) :
    (notify wiring system sequenceId mark).pipeline.ordersDrained =
      system.pipeline.ordersDrained := by
  simp only [notify]
  split_ifs <;> rfl

@[simp]
theorem dispatch_ordersDrained (wiring : Wiring) (system : System capacity)
    (order : OrderRequest) :
    (dispatch wiring system order).2.pipeline.ordersDrained =
      system.pipeline.ordersDrained := by
  unfold dispatch
  split_ifs
  · simp [countGatewayReject]
  · simp only [notify_ordersDrained]
    split_ifs <;> simp [countAccept, countGatewayReject]

/-- Only the pop counts an order as drained. -/
@[simp]
theorem drainOrder_ordersDrained (wiring : Wiring)
    (system : System capacity) (order : OrderRequest) :
    (drainOrder wiring system order).2.pipeline.ordersDrained =
      system.pipeline.ordersDrained := by
  simp only [drainOrder]
  split_ifs
  · simp [countRiskReject]
  · simp
  · simp

theorem drainStep_of_empty
    {wiring : Wiring} {system : System capacity}
    (drained : system.pipeline.buffer.contents = []) :
    drainStep wiring system = none := by
  simp only [drainStep, RingBuffer.pop_of_empty drained]

/-- The buffer after a pop, which is only used when there is an order. -/
def restBuffer (system : System capacity) :
    RingBuffer OrderRequest capacity :=
  system.pipeline.buffer.pop.2

theorem drainStep_of_contents
    {wiring : Wiring} {system : System capacity}
    {order : OrderRequest} {rest : List OrderRequest}
    (queue : system.pipeline.buffer.contents = order :: rest) :
    drainStep wiring system =
      some
        ({ order := order
           outcome :=
            (drainOrder wiring (popped system (restBuffer system))
              order).1 },
          (drainOrder wiring (popped system (restBuffer system))
            order).2) := by
  have taken := (RingBuffer.pop_of_contents queue).1
  simp only [drainStep, taken, restBuffer]

theorem contents_restBuffer
    {system : System capacity}
    {order : OrderRequest} {rest : List OrderRequest}
    (queue : system.pipeline.buffer.contents = order :: rest) :
    (restBuffer system).contents = rest :=
  (RingBuffer.pop_of_contents queue).2

/-- An iteration takes the head of the queue and leaves the rest. -/
theorem drainStep_inv
    {wiring : Wiring} {system next : System capacity} {call : DrainCall}
    (head : drainStep wiring system = some (call, next)) :
    ∃ rest,
      system.pipeline.buffer.contents = call.order :: rest ∧
      next.pipeline.buffer.contents = rest ∧
      drainOrder wiring (popped system (restBuffer system)) call.order =
        (call.outcome, next) := by
  cases queue : system.pipeline.buffer.contents with
  | nil =>
      rw [drainStep_of_empty queue] at head
      contradiction
  | cons order rest =>
      rw [drainStep_of_contents queue] at head
      rcases Prod.mk.inj (Option.some.inj head) with ⟨rfl, rfl⟩
      refine ⟨rest, rfl, ?_, rfl⟩
      rw [drainOrder_buffer]
      exact contents_restBuffer queue

theorem drainLoop_trace
    (wiring : Wiring) (fuel : Nat) (system : System capacity)
    (enough : system.pipeline.buffer.contents.length < fuel) :
    DrainTrace wiring system (drainLoop wiring fuel system).calls
        (drainLoop wiring fuel system).system ∧
      (drainLoop wiring fuel system).drainedNow =
        system.pipeline.buffer.contents.length := by
  induction fuel generalizing system with
  | zero => exact absurd enough (Nat.not_lt_zero _)
  | succ fuel induction =>
      cases head : drainStep wiring system with
      | none =>
          cases queue : system.pipeline.buffer.contents with
          | nil =>
              simp only [drainLoop, head]
              exact ⟨.done queue, rfl⟩
          | cons order rest =>
              rw [drainStep_of_contents queue] at head
              contradiction
      | some result =>
          rcases result with ⟨call, next⟩
          rcases drainStep_inv head with ⟨rest, queue, remaining, _⟩
          have shorter :
              next.pipeline.buffer.contents.length < fuel := by
            rw [remaining]
            rw [queue, List.length_cons] at enough
            omega
          have later := induction next shorter
          simp only [drainLoop, head]
          refine ⟨.step head later.1, ?_⟩
          rw [later.2, remaining, queue, List.length_cons]

/-- `Drain` runs to its `break` and returns the number of waiting orders. -/
theorem drain_trace (wiring : Wiring) (system : System capacity) :
    DrainTrace wiring system (drain wiring system).calls
        (drain wiring system).system ∧
      (drain wiring system).drainedNow =
        system.pipeline.buffer.contents.length :=
  drainLoop_trace wiring _ system (by simp)

/-- A drain counts as drained what it returns. -/
theorem drainLoop_ordersDrained
    (wiring : Wiring) (fuel : Nat) (system : System capacity) :
    (drainLoop wiring fuel system).system.pipeline.ordersDrained =
      system.pipeline.ordersDrained +
        (drainLoop wiring fuel system).drainedNow := by
  induction fuel generalizing system with
  | zero => rfl
  | succ fuel induction =>
      cases head : drainStep wiring system with
      | none => simp only [drainLoop, head, Nat.add_zero]
      | some result =>
          rcases result with ⟨call, next⟩
          rcases drainStep_inv head with ⟨_, _, _, processed⟩
          have once :
              next.pipeline.ordersDrained =
                system.pipeline.ordersDrained + 1 := by
            have kept :=
              drainOrder_ordersDrained wiring
                (popped system (restBuffer system)) call.order
            rw [processed] at kept
            exact kept
          simp only [drainLoop, head, induction next, once]
          rw [Nat.add_assoc, Nat.add_comm 1]

/-- A drain handles exactly the queue, in order, and empties the buffer. -/
theorem DrainTrace.orders
    {wiring : Wiring} {system final : System capacity}
    {calls : List DrainCall}
    (trace : DrainTrace wiring system calls final) :
    calls.map DrainCall.order = system.pipeline.buffer.contents ∧
      final.pipeline.buffer.contents = [] := by
  induction trace with
  | done drained => exact ⟨drained.symm, drained⟩
  | step head _ induction =>
      rcases drainStep_inv head with ⟨rest, queue, remaining, _⟩
      rw [remaining] at induction
      rw [List.map_cons, induction.1, queue]
      exact ⟨rfl, induction.2⟩

end Llgw.Pipeline
