import Llgw.FeedReplay
import Llgw.RiskGuarantees
import Llgw.Strategy

/-!
# From the feed to the exchange

The program of `main.cpp`: the replay of a feed passes every update to the
strategy, and every order of the strategy to the pipeline, which is drained
once at the end.  The first orders fill the buffer, the others are dropped,
and the orders that the risk check lets through become the active orders of
the exchange.
-/

namespace Llgw.EndToEnd

open Llgw.Foundation.TransitionRun
open Llgw.Foundation.KeyedStore
open Llgw.Messages
open Llgw.Buffer
open Llgw.Risk
open Llgw.Exchange
open Llgw.LifecycleMarks
open Llgw.Gateway
open Llgw.Pipeline
open Llgw.System
open Llgw.StepEffects
open Llgw.Effects
open Llgw.Synchronisation
open Llgw.RiskGuarantees
open Llgw.Strategy
open Llgw.MarketDataParser
open Llgw.FeedReplay

variable {capacity : ℕ+}

/-! ## The program -/

/-- The objects of `main`. -/
abbrev Objects (capacity : ℕ+) := SimpleStrategy × System capacity

/-- The callback that `main` passes to the replay. -/
def onUpdate (objects : Objects capacity) (update : MarketDataUpdate) :
    Objects capacity :=
  let maybeOrder := onMarketData objects.1 update
  match maybeOrder.1 with
  | none => (maybeOrder.2, objects.2)
  | some order => (maybeOrder.2, (enqueue (tracked true) objects.2 order).2)

/-- What is left when `main` returns. -/
structure Outcome (capacity : ℕ+) where
  exitCode : Nat
  replayResult : FeedReplayResult
  /-- What `Drain` returned, if it was called. -/
  drainedNow : Option Nat
  strategy : SimpleStrategy
  system : System capacity

/-- `main`, with its constants and its file as parameters. -/
def mainWith (capacity : ℕ+) (riskLimits : RiskLimits) (minSpread : Float)
    (file : Option (List ByteString)) : Outcome capacity :=
  let replay :=
    replayMarketDataFile (some onUpdate) file
      (newStrategy minSpread, fresh riskLimits true)
  if replay.1.status ≠ .ok then
    { exitCode := 1
      replayResult := replay.1
      drainedNow := none
      strategy := replay.2.1
      system := replay.2.2 }
  else
    let drained := drain (tracked true) replay.2.2
    { exitCode := 0
      replayResult := replay.1
      drainedNow := some drained.drainedNow
      strategy := replay.2.1
      system := drained.system }

/-- The limits of `main`. -/
def mainLimits : RiskLimits where
  maxOrderQuantity := 1000
  maxOrderNotional := 1000000.0
  allowedSymbols :=
    #v[text "AAPL", text "MSFT", text "NVDA", text "GOOG", text "TSLA",
      text "AMZN", text "META", text "SPY"]
  allowedSymbolCount := 8

/-- `main`. -/
def main (file : Option (List ByteString)) : Outcome 16 :=
  mainWith 16 mainLimits 0.02 file

/-! ## Filling the buffer -/

/--
New components after these orders were offered: the first of them fill the
buffer, the others are dropped, and no order has gone any further.
-/
structure Filled (limits : RiskLimits) (orders : List OrderRequest)
    (system : System capacity) : Prop where
  synchronised : Synchronised system
  contents : system.pipeline.buffer.contents = orders.take capacity
  known :
    ∀ sequenceId ∈ system.lifecycleTracker.records,
      sequenceId ∈ orders.map OrderRequest.sequenceId
  enqueued :
    system.pipeline.ordersEnqueued = min orders.length capacity
  dropped :
    system.pipeline.ordersDroppedOnEnqueue =
      orders.length - min orders.length capacity
  refused : system.pipeline.ordersRejectedByLifecycleOnEnqueue = 0
  gateway : system.gateway = {}
  exchange : system.exchange = {}
  riskManager : system.riskManager = .ofLimits limits

namespace Filled

variable {limits : RiskLimits} {orders : List OrderRequest}
  {system : System capacity}

theorem start :
    Filled limits [] (fresh limits true : System capacity) where
  synchronised := .fresh limits true
  contents := List.take_nil.symm
  known := by
    intro sequenceId member
    exact absurd member (Finmap.notMem_empty)
  enqueued := (Nat.zero_min _).symm
  dropped := rfl
  refused := rfl
  gateway := rfl
  exchange := rfl
  riskManager := rfl

/-- The length of the queue decides whether there is room. -/
theorem full_iff (filled : Filled limits orders system) :
    system.pipeline.buffer.full = true ↔ (capacity : Nat) ≤ orders.length := by
  rw [RingBuffer.full_iff, filled.contents, List.length_take]
  exact min_eq_left_iff

/-- An order is dropped when the buffer is full. -/
theorem drop (filled : Filled limits orders system)
    (long : capacity ≤ orders.length) (order : OrderRequest) :
    Filled limits (orders ++ [order]) (StepEffects.dropped system) :=
  { filled with
    contents := by
      rw [List.take_append_of_le_length long]
      exact filled.contents
    known := by
      intro sequenceId member
      rw [List.map_append]
      exact List.mem_append_left _ (filled.known sequenceId member)
    enqueued := by
      have enqueued := filled.enqueued
      rw [min_eq_right long] at enqueued
      rw [List.length_append, min_eq_right (Nat.le_add_right_of_le long)]
      exact enqueued
    dropped := by
      have dropped := filled.dropped
      rw [min_eq_right long] at dropped
      rw [List.length_append, min_eq_right (Nat.le_add_right_of_le long),
        Nat.sub_add_comm long, ← dropped]
      rfl }

/-- A new order joins the queue while there is room. -/
theorem join (filled : Filled limits orders system)
    (short : orders.length < capacity) {order : OrderRequest}
    (unknown : order.sequenceId ∉ system.lifecycleTracker.records) :
    Filled limits (orders ++ [order])
      (joined (tracked true) system order) := by
  have room : system.pipeline.buffer.full = false := by
    rw [Bool.eq_false_iff, Ne, filled.full_iff, Nat.not_le]
    exact short
  have length : (orders ++ [order]).length = orders.length + 1 :=
    List.length_append
  exact
    { filled with
      synchronised := filled.synchronised.joined unknown room
      contents := by
        simp only [StepEffects.joined, RingBuffer.contents_push room,
          filled.contents]
        rw [List.take_of_length_le short.le, List.take_of_length_le]
        rw [length]
        exact short
      known := by
        intro sequenceId member
        rw [List.map_append]
        rcases (mem_enqueued_records _ _ _).mp member with rfl | old
        · exact List.mem_append_right _ (List.mem_singleton_self _)
        · exact List.mem_append_left _ (filled.known sequenceId old)
      enqueued := by
        have enqueued := filled.enqueued
        rw [min_eq_left short.le] at enqueued
        rw [length, min_eq_left short]
        exact congrArg (· + 1) enqueued
      dropped := by
        have dropped := filled.dropped
        rw [min_eq_left short.le, Nat.sub_self] at dropped
        rw [length, min_eq_left short, Nat.sub_self]
        exact dropped }

/-- The step lemma: an order with a new id is offered. -/
theorem concat (filled : Filled limits orders system)
    {order : OrderRequest}
    (new : order.sequenceId ∉ orders.map OrderRequest.sequenceId) :
    Filled limits (orders ++ [order])
      (enqueue (tracked true) system order).2 := by
  have unknown : order.sequenceId ∉ system.lifecycleTracker.records := by
    intro member
    exact new (filled.known _ member)
  cases room : system.pipeline.buffer.full with
  | true =>
      rw [enqueue_of_full (fun _ => unknown) room]
      exact filled.drop (filled.full_iff.mp room) order
  | false =>
      rw [enqueue_of_room (fun _ => unknown) room]
      apply filled.join
      · rw [← Nat.not_le, ← filled.full_iff, room]
        exact Bool.false_ne_true
      · exact unknown

end Filled

/-- Orders with distinct ids are offered to new components. -/
theorem run_filled (limits : RiskLimits) (orders : List OrderRequest)
    (distinct : (orders.map OrderRequest.sequenceId).Nodup) :
    Filled limits orders
      (run (enqueue (tracked true)) (fresh limits true : System capacity)
        orders) := by
  induction orders using List.reverseRecOn with
  | nil => exact .start
  | append_singleton orders last induction =>
      rw [List.map_append, List.map_singleton, List.nodup_append]
        at distinct
      rcases distinct with ⟨earlier, _, apart⟩
      have new :
          last.sequenceId ∉ orders.map OrderRequest.sequenceId := by
        intro member
        exact apart _ member _ (List.mem_singleton_self _) rfl
      rw [run_concat]
      exact (induction earlier).concat new

/-! ## Draining it -/

/-- Whether a risk manager with these limits accepts an order. -/
def passesCheck (limits : RiskLimits) (order : OrderRequest) : Bool :=
  ((PreTradeRiskManager.ofLimits limits).check order).1.accepted

theorem passesCheck_iff (limits : RiskLimits) (order : OrderRequest) :
    passesCheck limits order = true ↔
      (PreTradeRiskManager.ofLimits limits).firstFailure order = none := by
  rw [passesCheck, PreTradeRiskManager.check_accepted_eq_accepts,
    PreTradeRiskManager.accepts, Option.isNone_iff_eq_none]

/-- The counters that only `Enqueue` changes. -/
def offerCounts (pipeline : OrderPipeline capacity) : Nat × Nat × Nat :=
  (pipeline.ordersEnqueued, pipeline.ordersDroppedOnEnqueue,
    pipeline.ordersRejectedByLifecycleOnEnqueue)

/--
A drain after these orders: those of them that pass the check are the active
orders of the exchange.
-/
structure Drained (limits : RiskLimits) (counts : Nat × Nat × Nat)
    (orders : List OrderRequest) (system : System capacity) : Prop where
  synchronised : Synchronised system
  decisions :
    system.riskManager.firstFailure =
      (PreTradeRiskManager.ofLimits limits).firstFailure
  counts : offerCounts system.pipeline = counts
  active :
    Holds OrderRequest.sequenceId (orders.filter (passesCheck limits))
      system.exchange.activeOrders

namespace Drained

variable {limits : RiskLimits} {counts : Nat × Nat × Nat}
  {orders : List OrderRequest} {system : System capacity}

/-- The step lemma: one iteration of the drain. -/
theorem drainStep (drained : Drained limits counts orders system)
    {call : DrainCall} {next : System capacity}
    (head : drainStep (tracked true) system = some (call, next)) :
    Drained limits counts (orders ++ [call.order]) next := by
  have effect := drainStep_effect drained.synchronised head
  refine ⟨effect.synchronised drained.synchronised,
    (firstFailure_of_effect effect).trans drained.decisions, ?_, ?_⟩
  · refine Eq.trans ?_ drained.counts
    cases effect <;> rfl
  · rw [List.filter_append]
    cases effect with
    | @refusedByRisk order _ _ _ queue found checks failure =>
        rw [drained.decisions] at failure
        have refused : ¬ passesCheck limits order = true := by
          rw [passesCheck_iff, failure]
          exact Option.some_ne_none _
        rw [List.filter_cons_of_neg refused, List.filter_nil,
          List.append_nil]
        exact drained.active
    | acceptedOrder queue found passes valid =>
        have failure := passes rfl
        rw [drained.decisions, ← passesCheck_iff] at failure
        rw [List.filter_cons_of_pos failure, List.filter_nil]
        exact drained.active.insert (drained.synchronised.inactive queue)
    | rejectedOrder queue found passes invalid =>
        have permits :=
          (PreTradeRiskManager.firstFailure_eq_none_iff _ _).mp (passes rfl)
        exact absurd (validOrder_of_permits permits) invalid

/-- The run lemma: the whole drain. -/
theorem drainTrace (drained : Drained limits counts orders system)
    {calls : List DrainCall} {final : System capacity}
    (trace : DrainTrace (tracked true) system calls final) :
    Drained limits counts (orders ++ calls.map DrainCall.order) final := by
  induction trace generalizing orders with
  | done _ =>
      rw [List.map_nil, List.append_nil]
      exact drained
  | step head _ induction =>
      rw [List.map_cons, ← List.singleton_append, ← List.append_assoc]
      exact induction (drained.drainStep head)

end Drained

/-- A drain of a filled buffer. -/
theorem Filled.drain {limits : RiskLimits} {orders : List OrderRequest}
    {system : System capacity} (filled : Filled limits orders system) :
    Drained limits (offerCounts system.pipeline) (orders.take capacity)
        (drain (tracked true) system).system ∧
      (drain (tracked true) system).drainedNow =
        min orders.length capacity := by
  rcases drain_trace (tracked true) system with ⟨trace, count⟩
  have untouched :
      Drained limits (offerCounts system.pipeline) [] system := by
    refine ⟨filled.synchronised, ?_, rfl, ?_⟩
    · rw [filled.riskManager]
    · rw [filled.exchange]
      exact .empty
  have all := untouched.drainTrace trace
  rw [trace.orders.1, filled.contents, List.nil_append] at all
  rw [filled.contents, List.length_take, Nat.min_comm] at count
  exact ⟨all, count⟩

/-! ## The replay -/

/-- The callback feeds the orders of the strategy to the pipeline. -/
theorem onUpdate_eq_cascade :
    (onUpdate : Objects capacity → MarketDataUpdate → Objects capacity) =
      cascade onMarketData (enqueue (tracked true)) := by
  funext objects update
  simp only [onUpdate, cascade]
  cases (onMarketData objects.1 update).1 <;> rfl

section Replay

variable (limits : RiskLimits) (minSpread : Float)
  (lines : List ByteString)

/-- The objects of `main` after these lines were replayed. -/
theorem deliver_onUpdate :
    deliver onUpdate
        (newStrategy minSpread, (fresh limits true : System capacity))
        lines =
      (run onMarketData (newStrategy minSpread) (lines.map updateOf),
        run (enqueue (tracked true)) (fresh limits true)
          (generatedOrders minSpread (lines.map updateOf))) := by
  rw [deliver, onUpdate_eq_cascade]
  exact foldl_cascade onMarketData (enqueue (tracked true)) _ _

/-- The ids of the generated orders are distinct, while they last. -/
theorem deliver_filled (few : lines.length < UInt64.size) :
    Filled limits (generatedOrders minSpread (lines.map updateOf))
      (run (enqueue (tracked true)) (fresh limits true : System capacity)
        (generatedOrders minSpread (lines.map updateOf))) := by
  rw [← List.length_map updateOf] at few
  exact run_filled limits _ (generatedOrders_distinct minSpread _ few)

/-- A line that does not parse ends the program before the drain. -/
theorem mainWith_of_error (few : lines.length < UInt64.size)
    (bad : ¬ ∀ line ∈ lines, Parses line) :
    let outcome : Outcome capacity :=
      mainWith capacity limits minSpread (some lines)
    outcome.drainedNow = none ∧
      outcome.system.gateway = {} ∧ outcome.system.exchange = {} := by
  obtain ⟨before, line, after, rfl, parse, refused⟩ :=
    exists_first_error bad
  have fewer : before.length < UInt64.size := by
    rw [List.length_append] at few
    omega
  have filled : Filled limits _ (_ : System capacity) :=
    deliver_filled limits minSpread before fewer
  simp only [mainWith, replay_of_error onUpdate _ parse refused,
    deliver_onUpdate]
  exact ⟨rfl, filled.gateway, filled.exchange⟩

/-- What is left of a feed that made the strategy generate these orders. -/
structure Delivered (orders : List OrderRequest)
    (outcome : Outcome capacity) : Prop where
  generated : outcome.strategy.ordersGenerated = orders.length
  enqueued :
    outcome.system.pipeline.ordersEnqueued = min orders.length capacity
  dropped :
    outcome.system.pipeline.ordersDroppedOnEnqueue =
      orders.length - min orders.length capacity
  refused :
    outcome.system.pipeline.ordersRejectedByLifecycleOnEnqueue = 0
  drainedNow : outcome.drainedNow = some (min orders.length capacity)
  active :
    Holds OrderRequest.sequenceId
      ((orders.take capacity).filter (passesCheck limits))
      outcome.system.exchange.activeOrders

/-- A feed that parses is replayed whole, and the pipeline is drained. -/
theorem mainWith_of_parses (few : lines.length < UInt64.size)
    (parse : ∀ line ∈ lines, Parses line) :
    Delivered limits (generatedOrders minSpread (lines.map updateOf))
      (mainWith capacity limits minSpread (some lines)) := by
  have filled : Filled limits _ (_ : System capacity) :=
    deliver_filled limits minSpread lines few
  rcases filled.drain with ⟨drained, count⟩
  have counts := drained.counts
  simp only [offerCounts, Prod.mk.injEq] at counts
  rw [← List.length_map updateOf] at few
  have issued := run_issued minSpread _ few
  simp only [mainWith, replay_of_parses onUpdate _ parse,
    deliver_onUpdate]
  exact
    { generated := issued.generated
      enqueued := counts.1.trans filled.enqueued
      dropped := counts.2.1.trans filled.dropped
      refused := counts.2.2.trans filled.refused
      drainedNow := congrArg some count
      active := drained.active }

end Replay

/-! ## The whole program -/

/--
With a feed of fewer lines than there are ids.  If some line does not parse,
the pipeline is not drained and nothing reaches the gateway.  Otherwise the
strategy answers line by line; its first orders fill the buffer and the others
are dropped; the drain returns how many were queued; and the active orders of
the exchange are those of the queued orders that pass the risk check, each
under its own id and at the symbol and the ask of its own line.
-/
theorem feed_reaches_exchange
    (riskLimits : RiskLimits) (minSpread : Float)
    (lines : List ByteString) (few : lines.length < UInt64.size) :
    let outcome : Outcome capacity :=
      mainWith capacity riskLimits minSpread (some lines)
    let pipeline := outcome.system.pipeline
    let exchange := outcome.system.exchange
    let generated := outcome.strategy.ordersGenerated
    let answers :=
      outputs onMarketData (newStrategy minSpread) (lines.map updateOf)
    let orders := answers.reduceOption
    ((∃ line ∈ lines, ¬ Parses line) →
        outcome.drainedNow = none ∧
          outcome.system.gateway = {} ∧ exchange = {}) ∧
      ((∀ line ∈ lines, Parses line) →
        (List.Forall₂
              (fun line answer =>
                ∀ order ∈ answer, BuysAtAsk (updateOf line) order)
              lines answers ∧
            (orders.map OrderRequest.sequenceId).Nodup ∧
            generated = orders.length) ∧
          (pipeline.ordersEnqueued = min generated capacity ∧
            pipeline.ordersDroppedOnEnqueue =
              generated - min generated capacity ∧
            pipeline.ordersRejectedByLifecycleOnEnqueue = 0 ∧
            outcome.drainedNow = some (min generated capacity)) ∧
          ∀ sequenceId order,
            exchange.findActiveOrder sequenceId = some order ↔
              order ∈
                  (orders.take (min generated capacity)).filter
                    (passesCheck riskLimits) ∧
                order.sequenceId = sequenceId) := by
  intro outcome pipeline exchange generated answers orders
  constructor
  · rintro ⟨line, member, refused⟩
    apply mainWith_of_error riskLimits minSpread lines few
    intro all
    exact refused (all line member)
  · intro parse
    have delivered : Delivered riskLimits orders outcome :=
      mainWith_of_parses riskLimits minSpread lines few parse
    have total : generated = orders.length := delivered.generated
    have first :
        orders.take (min orders.length capacity) = orders.take capacity := by
      rw [Nat.min_comm, ← List.take_eq_take_min]
    have answered := outputs_buyAtAsk minSpread (lines.map updateOf)
    rw [List.forall₂_map_left_iff] at answered
    rw [← List.length_map updateOf] at few
    have distinct := generatedOrders_distinct minSpread _ few
    rw [total, first]
    exact
      ⟨⟨answered, distinct, rfl⟩,
        ⟨delivered.enqueued, delivered.dropped, delivered.refused,
          delivered.drainedNow⟩,
        delivered.active⟩

/-- The first lines of the sample feed. -/
def sampleFeed : List ByteString :=
  [text "AAPL,192.10,100,192.12,200,1710000000123456789",
    text "MSFT,420.50,150,420.55,250,1710000001123456789"]

theorem feed_reaches_exchange_sampleFeed :
    let outcome := main (some sampleFeed)
    let orders := generatedOrders 0.02 (sampleFeed.map updateOf)
    let queued := orders.take (min outcome.strategy.ordersGenerated 16)
    outcome.drainedNow =
        some (min outcome.strategy.ordersGenerated 16) ∧
      ∀ sequenceId order,
        outcome.system.exchange.findActiveOrder sequenceId = some order ↔
          order ∈ queued.filter (passesCheck mainLimits) ∧
            order.sequenceId = sequenceId := by
  intro outcome orders queued
  have reached :=
    (@feed_reaches_exchange 16 mainLimits 0.02 sampleFeed
      (by decide)).2 (by decide)
  exact ⟨reached.2.1.2.2.2, reached.2.2⟩

example : (main (some sampleFeed)).drainedNow = some 2 := by decide

end Llgw.EndToEnd
