import Llgw.Foundation.FloatQuotients
import Llgw.PathComparison

/-!
# The two paths agree

The state in which a path is depends on how many events it has processed and
on nothing else.  One invariant says what it has counted: every order that the
strategy generated was enqueued, drained, sent and accepted.  It holds of both
paths at once, so both pass the checks of their counters and end with the same
counters and the same checksum.
-/

namespace Llgw.PathAgreement

open Llgw.Foundation
open Llgw.Foundation.TransitionRun
open Llgw.Foundation.Batches
open Llgw.Messages
open Llgw.Buffer
open Llgw.Exchange
open Llgw.Gateway
open Llgw.Pipeline
open Llgw.System
open Llgw.StepEffects
open Llgw.Strategy
open Llgw.MarketDataParser
open Llgw.BenchmarkArguments
open Llgw.BenchmarkSummaries
open Llgw.PathComparison

variable {capacity : ℕ+}

/-! ## A system that accepts every order -/

/-- A valid order with a new id is sent and accepted. -/
theorem drainOrder_of_new (system : System capacity)
    {order : OrderRequest} (valid : ValidOrder order)
    (unseen : order.sequenceId ∉ system.exchange.seenSequenceIds) :
    (drainOrder (untracked false) system order).2 =
      { system with
        gateway :=
          { system.gateway with
            ordersSent := system.gateway.ordersSent + 1
            ordersAccepted := system.gateway.ordersAccepted + 1 }
        exchange := (system.exchange.submitOrder order).2
        pipeline := countAccept system.pipeline } := by
  rw [drainOrder_of_pass fun checks => absurd checks Bool.false_ne_true,
    dispatch_of_waiting rfl rfl (.of_detached rfl _ _ {})]
  have response := ExchangeSimulator.submitOrder_of_accepts valid unseen
  simp only [submitted, passedManager, untracked, Bool.false_eq_true,
    if_false, response, countSubmission, countOutcome, if_true]

/--
A system without a tracker that has settled so many of the orders enqueued and
holds so many more in its queue.  None of them was refused, and their ids are
consecutive.
-/
structure Settling (settled waiting : Nat) (system : System capacity) :
    Prop where
  ids :
    system.queuedIds = (List.range' (settled + 1) waiting).map UInt64.ofNat
  valid : ∀ order ∈ system.pipeline.buffer.contents, ValidOrder order
  seen : ∀ id ∈ system.exchange.seenSequenceIds, id.toNat ≤ settled
  enqueued : system.pipeline.ordersEnqueued = settled + waiting
  dropped : system.pipeline.ordersDroppedOnEnqueue = 0
  drained : system.pipeline.ordersDrained = settled
  accepted : system.pipeline.ordersAccepted = settled
  rejected : system.pipeline.ordersRejected = 0
  gateway :
    system.gateway = { ordersSent := settled, ordersAccepted := settled }

namespace Settling

variable {settled waiting : Nat} {system : System capacity}

theorem start : Settling 0 0 (fresh {} false : System capacity) where
  ids := rfl
  valid order member := by
    contradiction
  seen id member := by
    contradiction
  enqueued := rfl
  dropped := rfl
  drained := rfl
  accepted := rfl
  rejected := rfl
  gateway := rfl

theorem length_contents (settling : Settling settled waiting system) :
    system.pipeline.buffer.contents.length = waiting := by
  have length := congrArg List.length settling.ids
  rw [System.queuedIds, List.length_map, List.length_map,
    List.length_range'] at length
  exact length

/-- An order with the next id joins the queue, if there is room. -/
theorem enqueue (settling : Settling settled waiting system)
    (room : waiting < capacity) {order : OrderRequest}
    (next : order.sequenceId = UInt64.ofNat (settled + waiting + 1))
    (valid : ValidOrder order) :
    (enqueue (untracked false) system order).1 = true ∧
      Settling settled (waiting + 1)
        (Pipeline.enqueue (untracked false) system order).2 := by
  have unknown :
      (untracked false).lifecycleTracker = true →
        order.sequenceId ∉ system.lifecycleTracker.records :=
    fun attached => absurd attached Bool.false_ne_true
  have notFull : system.pipeline.buffer.full = false := by
    rw [Bool.eq_false_iff, Ne, RingBuffer.full_iff,
      settling.length_contents]
    exact room.ne
  have pushed := RingBuffer.contents_push notFull order
  rw [enqueue_of_room unknown notFull]
  refine ⟨rfl, ?_⟩
  constructor
  · show (joined (untracked false) system order).pipeline.buffer.contents.map
        OrderRequest.sequenceId = _
    rw [List.range'_concat, List.map_append, ← settling.ids]
    simp only [joined, pushed, List.map_append, List.map_singleton, next,
      System.queuedIds]
    rw [Nat.one_mul, Nat.add_right_comm]
  · simp only [joined, pushed]
    rw [List.forall_mem_append, List.forall_mem_singleton]
    exact ⟨settling.valid, valid⟩
  · exact settling.seen
  · exact congrArg (· + 1) settling.enqueued
  · exact settling.dropped
  · exact settling.drained
  · exact settling.accepted
  · exact settling.rejected
  · exact settling.gateway

/-- An iteration of `Drain` settles the first order of the queue. -/
theorem drainStep (settling : Settling settled (waiting + 1) system)
    (few : settled + 1 < UInt64.size) :
    ∃ call next,
      drainStep (untracked false) system = some (call, next) ∧
        Settling (settled + 1) waiting next := by
  have ids := settling.ids
  have valid := settling.valid
  rw [System.queuedIds, List.range'_succ, List.map_cons] at ids
  cases queue : system.pipeline.buffer.contents with
  | nil =>
      rw [queue] at ids
      contradiction
  | cons order rest =>
      rw [queue, List.map_cons, List.cons.injEq] at ids
      rw [queue, List.forall_mem_cons] at valid
      have number : order.sequenceId.toNat = settled + 1 := by
        rw [ids.1]
        exact UInt64.toNat_ofNat_of_lt' few
      have unseen : order.sequenceId ∉ system.exchange.seenSequenceIds := by
        intro known
        have bound := settling.seen _ known
        omega
      have response :=
        ExchangeSimulator.submitOrder_of_accepts valid.1 unseen
      have remaining := contents_restBuffer queue
      rw [drainStep_of_contents queue,
        drainOrder_of_new (popped system (restBuffer system)) valid.1 unseen]
      refine ⟨_, _, rfl, ?_⟩
      constructor
      · show (restBuffer system).contents.map OrderRequest.sequenceId = _
        rw [remaining]
        exact ids.2
      · show ∀ order ∈ (restBuffer system).contents, ValidOrder order
        rw [remaining]
        exact valid.2
      · intro other known
        simp only [popped, response, Finset.mem_insert] at known
        rcases known with rfl | old
        · exact Nat.le_of_eq number
        · exact Nat.le_succ_of_le (settling.seen _ old)
      · show system.pipeline.ordersEnqueued = settled + 1 + waiting
        rw [settling.enqueued, Nat.add_right_comm]
        rfl
      · exact settling.dropped
      · exact congrArg (· + 1) settling.drained
      · exact congrArg (· + 1) settling.accepted
      · exact settling.rejected
      · simp only [popped, settling.gateway]

/-- The loop of `Drain` settles the whole queue. -/
theorem drainLoop (settling : Settling settled waiting system)
    (few : settled + waiting < UInt64.size) {fuel : Nat}
    (enough : waiting < fuel) :
    Settling (settled + waiting) 0
      (drainLoop (untracked false) fuel system).system := by
  induction waiting generalizing settled system fuel with
  | zero =>
      cases fuel with
      | zero => exact absurd enough (Nat.not_lt_zero _)
      | succ fuel =>
          have empty :=
            List.length_eq_zero_iff.mp settling.length_contents
          simp only [Pipeline.drainLoop, drainStep_of_empty empty]
          exact settling
  | succ waiting induction =>
      cases fuel with
      | zero => exact absurd enough (Nat.not_lt_zero _)
      | succ fuel =>
          rcases settling.drainStep (by omega) with ⟨call, next, head, later⟩
          simp only [Pipeline.drainLoop, head]
          rw [Nat.add_comm waiting, ← Nat.add_assoc]
          exact induction later (by omega) (Nat.lt_of_succ_lt_succ enough)

/-- A drain settles the whole queue and returns its length. -/
theorem drain (settling : Settling settled waiting system)
    (few : settled + waiting < UInt64.size) :
    Settling (settled + waiting) 0 (drain (untracked false) system).system ∧
      (Pipeline.drain (untracked false) system).drainedNow = waiting := by
  have size : system.pipeline.buffer.size = waiting := by
    rw [← RingBuffer.length_contents, settling.length_contents]
  constructor
  · apply settling.drainLoop few
    rw [size]
    exact Nat.lt_succ_self waiting
  · rw [(drain_trace (untracked false) system).2, settling.length_contents]

end Settling

/-! ## Events -/

/-- The strategy of a path after so many events and so many orders. -/
def strategyAfter (events generated : Nat) : SimpleStrategy where
  minSpread := kStrategyMinSpread
  nextSequenceId := UInt64.ofNat (generated + 1)
  signalsSeen := events
  ordersGenerated := generated

/-- The strategy finds the spread too narrow. -/
def Narrow (update : MarketDataUpdate) : Prop :=
  update.askPrice - update.bidPrice + kPriceEpsilon < kStrategyMinSpread

instance (update : MarketDataUpdate) : Decidable (Narrow update) :=
  inferInstanceAs (Decidable (_ < _))

/-- The strategy generates an order, and the exchange accepts it. -/
structure Triggers (update : MarketDataUpdate) : Prop where
  wide : ¬ Narrow update
  symbol : (FixedSymbol.assign update.symbol).1 = true
  price : ValidPrice update.askPrice

/-- An input whose line says what was prepared, and whose flag is right. -/
structure Comparable (input : PreparedInput) : Prop where
  parses :
    parseMarketDataLine input.line =
      { status := .ok, update := input.asUpdate }
  silent : input.shouldGenerateOrder = false → Narrow input.asUpdate
  triggers : input.shouldGenerateOrder = true → Triggers input.asUpdate

theorem onMarketData_of_narrow (events generated : Nat)
    {update : MarketDataUpdate} (narrow : Narrow update) :
    onMarketData (strategyAfter events generated) update =
      (none, strategyAfter (events + 1) generated) :=
  if_pos narrow

theorem ne_nil_of_assign {value : ByteString}
    (assigned : (FixedSymbol.assign value).1 = true) : value ≠ [] := by
  rintro rfl
  contradiction

theorem onMarketData_of_triggers (events generated : Nat)
    {update : MarketDataUpdate} (triggers : Triggers update) :
    ∃ order,
      onMarketData (strategyAfter events generated) update =
          (some order, strategyAfter (events + 1) (generated + 1)) ∧
        order.sequenceId = UInt64.ofNat (generated + 1) ∧
        ValidOrder order := by
  have next :
      UInt64.ofNat (generated + 1) + 1 =
        UInt64.ofNat (generated + 1 + 1) :=
    (UInt64.ofNat_add (generated + 1) 1).symm
  simp only [onMarketData]
  split_ifs with narrow unassigned
  · exact absurd narrow triggers.wide
  · rw [triggers.symbol] at unassigned
    exact absurd unassigned Bool.false_ne_true
  · refine ⟨_, Prod.ext rfl ?_, rfl, ?_⟩
    · simp only [strategyAfter, next]
    · constructor
      · rw [view_assign triggers.symbol]
        exact ne_nil_of_assign triggers.symbol
      · exact triggers.price
      · exact (by decide : (10 : UInt32) ≠ 0)

/-- What is expected of events splits where the events do. -/
theorem expectedOrders_add (inputs : Inputs) (start first second : Nat) :
    expectedOrders inputs start (first + second) =
      expectedOrders inputs start first +
        expectedOrders inputs (start + first) second := by
  induction second with
  | zero => rfl
  | succ second induction =>
      rw [← Nat.add_assoc, expectedOrders, expectedOrders, induction,
        Nat.add_assoc, Nat.add_assoc start]

theorem expectedOrders_le (inputs : Inputs) (start count : Nat) :
    expectedOrders inputs start count ≤ count := by
  induction count with
  | zero => exact Nat.le_refl 0
  | succ count induction =>
      rw [expectedOrders]
      split_ifs
      · exact Nat.succ_le_succ induction
      · exact Nat.le_succ_of_le induction

/--
The state of a path after so many events: so many orders are settled and so
many wait for the drain.
-/
structure Trading (events settled waiting : Nat)
    (state : PathState capacity) : Prop where
  strategy : state.strategy = strategyAfter events (settled + waiting)
  system : Settling settled waiting state.system

namespace Trading

variable {events settled waiting : Nat} {state : PathState capacity}

theorem start : Trading 0 0 0 (newState : PathState capacity) where
  strategy := rfl
  system := .start

/-- An event has the same result on both paths. -/
theorem processEvent (trading : Trading events settled waiting state)
    (room : waiting < capacity) {input : PreparedInput}
    (comparable : Comparable input) :
    ∃ next,
      (∀ mode, processEvent mode input state = .ok next) ∧
        Trading (events + 1) settled
          (waiting + if input.shouldGenerateOrder then 1 else 0) next := by
  have update (mode : PathMode) :
      updateFor mode input = .ok input.asUpdate := by
    cases mode with
    | text =>
        simp only [updateFor, comparable.parses, ne_eq, not_true, if_false]
    | prepared => rfl
  simp only [PathComparison.processEvent, update, trading.strategy]
  cases flag : input.shouldGenerateOrder with
  | false =>
      have silent :=
        onMarketData_of_narrow events (settled + waiting)
          (comparable.silent flag)
      simp only [bind, Except.bind, silent]
      refine ⟨_, fun _ => rfl, ?_⟩
      constructor
      · rfl
      · exact trading.system
  | true =>
      rcases
        onMarketData_of_triggers events (settled + waiting)
          (comparable.triggers flag) with
        ⟨order, generated, numbered, valid⟩
      rcases trading.system.enqueue room numbered valid with
        ⟨accepted, later⟩
      simp only [bind, Except.bind, generated, accepted]
      refine ⟨_, fun _ => rfl, ?_⟩
      constructor
      · rfl
      · exact later

section Inputs

variable {inputs : Inputs}
  (comparable : ∀ input ∈ inputs.list, Comparable input)
include comparable

/-- So have the events of a batch, while there is room for their orders. -/
theorem eventLoop (trading : Trading events settled waiting state)
    {count : Nat} (room : waiting + count ≤ capacity) (index : Nat) :
    ∃ next,
      (∀ mode, eventLoop mode inputs index count state = .ok next) ∧
        Trading (events + count) settled
          (waiting + expectedOrders inputs index count) next := by
  induction count generalizing events waiting state index with
  | zero => exact ⟨state, fun _ => rfl, trading⟩
  | succ count induction =>
      rcases
        trading.processEvent (by omega)
          (comparable _ (inputs.at_mem index)) with
        ⟨middle, first, between⟩
      have least : expectedOrders inputs index 1 ≤ 1 :=
        expectedOrders_le inputs index 1
      rw [expectedOrders, expectedOrders, Nat.add_zero, Nat.zero_add]
        at least
      rcases induction between (by omega) (index + 1) with
        ⟨next, later, after⟩
      refine ⟨next, ?_, ?_⟩
      · intro mode
        rw [PathComparison.eventLoop, first mode]
        exact later mode
      · rw [Nat.add_comm count, expectedOrders_add, ← Nat.add_assoc,
          ← Nat.add_assoc, expectedOrders, expectedOrders, Nat.zero_add]
        exact after

end Inputs

end Trading

/-! ## Counters -/

section Runs

variable {inputs : Inputs}
  (comparable : ∀ input ∈ inputs.list, Comparable input)
  {size : Nat} (positive : 0 < size) (fits : size ≤ capacity)
include comparable positive fits

end Runs

/-! ## Measurements -/

section Modes

variable {inputs : Inputs}
  (comparable : ∀ input ∈ inputs.list, Comparable input)
  {config : BenchmarkConfig} {size : ℕ+} (batch : config.batchSize = size)
  (fits : size ≤ capacity)
include comparable batch fits

end Modes

end Llgw.PathAgreement
