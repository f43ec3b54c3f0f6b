import Llgw.EndToEnd
import Llgw.JournalTranscript
import Llgw.Ledgers
import Llgw.SummaryText

/-!
# What the program prints

`main.cpp` with its two output streams.  A summary is printed only after a
replay of the whole feed.  Every figure in it, and every line of the journal
behind it, is known from the number of lines and the orders that the strategy
generates: the first of them fill the buffer, the others leave a notice each,
and the risk check alone decides what becomes of an order in the buffer.
-/

namespace Llgw.MainOutput

open Llgw.Foundation
open Llgw.Foundation.TransitionRun
open Llgw.Foundation.LabelledTrace
open Llgw.Messages
open Llgw.Buffer
open Llgw.Risk
open Llgw.Reports
open Llgw.ReportText
open Llgw.Lifecycle
open Llgw.Pipeline
open Llgw.System
open Llgw.StepEffects
open Llgw.Effects
open Llgw.Synchronisation
open Llgw.RiskGuarantees
open Llgw.Strategy
open Llgw.MarketDataParser
open Llgw.FeedReplay
open Llgw.EndToEnd
open Llgw.Ledgers
open Llgw.JournalTranscript
open Llgw.SummaryText

variable {capacity : ℕ+}

/-! ## The program -/

/-- The figures of the summary. -/
structure Figures where
  linesRead : Nat
  updatesParsed : Nat
  signalsSeen : Nat
  ordersGenerated : Nat
  pipelineEnqueued : Nat
  pipelineDropped : Nat
  pipelineDrained : Nat
  pipelineAccepted : Nat
  pipelineRejected : Nat
  gatewaySent : Nat
  gatewayAccepted : Nat
  gatewayRejected : Nat
  lifecycleRegistered : Nat
  lifecycleQueued : Nat
  lifecycleRiskRejected : Nat
  lifecycleSent : Nat
  lifecycleExchangeAccepted : Nat
  lifecycleExchangeRejected : Nat
  lifecycleTransitionErrors : Nat
  reportsRecorded : Nat
  rejectionReports : Nat
  orderReports : Nat
  actionReports : Nat
deriving DecidableEq

/-- A counter of 64 bits with its label. -/
def figure (label : String) (value : Nat) : Line :=
  .figure (text label) (UInt64.ofNat value)

/-- The summary of `main`, line by line. -/
def summaryLines (figures : Figures) (reports : List ExecutionReport) :
    List Line :=
  [.title (text "Replay completed successfully"),
    figure "lines_read" figures.linesRead,
    figure "updates_parsed" figures.updatesParsed,
    .title (text "Strategy summary"),
    figure "signals_seen" figures.signalsSeen,
    figure "orders_generated" figures.ordersGenerated,
    .title (text "Order pipeline summary"),
    figure "orders_enqueued" figures.pipelineEnqueued,
    figure "orders_dropped_on_enqueue" figures.pipelineDropped,
    figure "orders_drained" figures.pipelineDrained,
    figure "orders_accepted" figures.pipelineAccepted,
    figure "orders_rejected" figures.pipelineRejected,
    .title (text "Order gateway summary"),
    figure "orders_sent" figures.gatewaySent,
    figure "orders_accepted" figures.gatewayAccepted,
    figure "orders_rejected" figures.gatewayRejected,
    .title (text "Order lifecycle summary"),
    figure "orders_registered" figures.lifecycleRegistered,
    figure "orders_queued" figures.lifecycleQueued,
    figure "orders_risk_rejected" figures.lifecycleRiskRejected,
    figure "orders_sent" figures.lifecycleSent,
    figure "orders_exchange_accepted" figures.lifecycleExchangeAccepted,
    figure "orders_exchange_rejected" figures.lifecycleExchangeRejected,
    figure "transition_errors" figures.lifecycleTransitionErrors,
    .title (text "Execution report summary"),
    figure "reports_recorded" figures.reportsRecorded,
    figure "rejection_reports" figures.rejectionReports,
    figure "order_reports" figures.orderReports,
    figure "action_reports" figures.actionReports] ++
    reports.map .report

/-- The journal of `main`. -/
def journalOf (system : System capacity) : ExecutionReportJournal :=
  system.lifecycleTracker.executionReports.getD {}

/-- The figures that `main` reads from its objects. -/
def figuresOf (replayResult : FeedReplayResult)
    (strategy : SimpleStrategy) (system : System capacity) : Figures where
  linesRead := replayResult.linesRead
  updatesParsed := replayResult.updatesParsed
  signalsSeen := strategy.signalsSeen
  ordersGenerated := strategy.ordersGenerated
  pipelineEnqueued := system.pipeline.ordersEnqueued
  pipelineDropped := system.pipeline.ordersDroppedOnEnqueue
  pipelineDrained := system.pipeline.ordersDrained
  pipelineAccepted := system.pipeline.ordersAccepted
  pipelineRejected := system.pipeline.ordersRejected
  gatewaySent := system.gateway.ordersSent
  gatewayAccepted := system.gateway.ordersAccepted
  gatewayRejected := system.gateway.ordersRejected
  lifecycleRegistered := system.lifecycleTracker.counters.ordersRegistered
  lifecycleQueued := system.lifecycleTracker.counters.ordersQueued
  lifecycleRiskRejected :=
    system.lifecycleTracker.counters.ordersRiskRejected
  lifecycleSent := system.lifecycleTracker.counters.ordersSent
  lifecycleExchangeAccepted :=
    system.lifecycleTracker.counters.ordersExchangeAccepted
  lifecycleExchangeRejected :=
    system.lifecycleTracker.counters.ordersExchangeRejected
  lifecycleTransitionErrors :=
    system.lifecycleTracker.errors.transitionErrors
  reportsRecorded := (journalOf system).reportsRecorded
  rejectionReports := (journalOf system).rejectionReports
  orderReports := (journalOf system).orderReports
  actionReports := (journalOf system).actionReports

/-- What `main` prints for an order that finds no room. -/
def dropNotice : ByteString :=
  text "Pipeline dropped order due to full buffer\n"

/-- An offer to the pipeline, with what `std::cerr` has received. -/
def enqueuePrinting (state : System capacity × ByteString)
    (order : OrderRequest) : Bool × System capacity × ByteString :=
  let enqueued := enqueue (tracked true) state.1 order
  (enqueued.1, enqueued.2,
    if !enqueued.1 then state.2 ++ dropNotice else state.2)

/-- The callback of `main` with its stream. -/
def onUpdatePrinting
    (state : SimpleStrategy × System capacity × ByteString)
    (update : MarketDataUpdate) :
    SimpleStrategy × System capacity × ByteString :=
  let maybeOrder := onMarketData state.1 update
  match maybeOrder.1 with
  | none => (maybeOrder.2, state.2)
  | some order => (maybeOrder.2, (enqueuePrinting state.2 order).2)

/-- What `main` prints for a replay that has failed. -/
def failureText (replayResult : FeedReplayResult) : ByteString :=
  text "Feed replay failed: " ++ replayResult.status.toString ++
    text "\n" ++
    if replayResult.status = .parseError then
      text "  error_line=" ++
        printed (UInt64.ofNat replayResult.errorLine) ++ text "\n"
    else []

/-- The exit code of a program and what it wrote to its two streams. -/
structure Printed where
  exitCode : Nat
  output : ByteString
  errors : ByteString

/-- `main` with its streams, its constants and its file as parameters. -/
def printingMain (capacity : ℕ+) (riskLimits : RiskLimits)
    (minSpread : Float) (file : Option (List ByteString)) : Printed :=
  let replay :=
    replayMarketDataFile (some onUpdatePrinting) file
      (newStrategy minSpread, (fresh riskLimits true : System capacity), [])
  if replay.1.status ≠ .ok then
    { exitCode := 1
      output := []
      errors := replay.2.2.2 ++ failureText replay.1 }
  else
    let drained := drain (tracked true) replay.2.2.1
    { exitCode := 0
      output :=
        printLines
          (summaryLines
            (figuresOf replay.1 replay.2.1 drained.system)
            (journalOf drained.system).reports)
      errors := replay.2.2.2 }

/-! ## The objects behind the streams -/

/-- What is printed tells what `main` leaves its objects with. -/
structure Tells (printed : Printed) (outcome : Outcome capacity) : Prop where
  exitCode : printed.exitCode = outcome.exitCode
  succeeds :
    outcome.exitCode = 0 →
      printed.output =
        printLines
          (summaryLines
            (figuresOf outcome.replayResult outcome.strategy outcome.system)
            (journalOf outcome.system).reports)
  fails :
    outcome.exitCode ≠ 0 →
      printed.output = [] ∧
        failureText outcome.replayResult <:+ printed.errors

/-- The objects without what `std::cerr` has received. -/
def withoutErrors (state : SimpleStrategy × System capacity × ByteString) :
    Objects capacity :=
  (state.1, state.2.1)

/-- The callback does to the objects what it does without a stream. -/
theorem onUpdatePrinting_withoutErrors
    (state : SimpleStrategy × System capacity × ByteString)
    (update : MarketDataUpdate) :
    withoutErrors (onUpdatePrinting state update) =
      onUpdate (withoutErrors state) update := by
  simp only [onUpdatePrinting, onUpdate, withoutErrors]
  cases (onMarketData state.1 update).1 <;> rfl

/-- `main` does the same with its streams and without them. -/
theorem printingMain_tells (limits : RiskLimits) (minSpread : Float)
    (file : Option (List ByteString)) :
    Tells (printingMain capacity limits minSpread file)
      (mainWith capacity limits minSpread file) := by
  have replays :
      replayMarketDataFile (some onUpdate) file
          (newStrategy minSpread, (fresh limits true : System capacity)) =
        Prod.map id withoutErrors
          (replayMarketDataFile (some onUpdatePrinting) file
            (newStrategy minSpread, fresh limits true, [])) :=
    replayMarketDataFile_forget onUpdatePrinting_withoutErrors file
      (newStrategy minSpread, fresh limits true, [])
  simp only [printingMain, mainWith, replays]
  generalize replayMarketDataFile (some onUpdatePrinting) file
    (newStrategy minSpread, (fresh limits true : System capacity), []) =
    replay
  rcases replay with ⟨result, strategy, system, errors⟩
  simp only [Prod.map, id, withoutErrors]
  split_ifs
  · constructor
    · rfl
    · intro success
      contradiction
    · exact fun _ => ⟨rfl, List.suffix_append _ _⟩
  · constructor
    · rfl
    · exact fun _ => rfl
    · exact fun failure => absurd rfl failure

/-! ## Offers -/

/-- This many notices. -/
def notices (count : Nat) : ByteString :=
  (List.replicate count dropNotice).flatten

/-- What is seen of offers to a new pipeline. -/
def offered (capacity : ℕ+) (orders : List OrderRequest) :
    List Observation :=
  (orders.take capacity).map (.enqueued · true) ++
    (orders.drop capacity).map (.enqueued · false)

theorem offered_concat (orders : List OrderRequest) (last : OrderRequest) :
    offered capacity (orders ++ [last]) =
      offered capacity orders ++
        [.enqueued last (decide (orders.length < capacity))] := by
  by_cases room : orders.length < capacity
  · have length : (orders ++ [last]).length ≤ capacity := by
      rw [List.length_append]
      exact room
    rw [offered, offered, List.take_of_length_le length,
      List.drop_of_length_le length, List.take_of_length_le room.le,
      List.drop_of_length_le room.le, List.map_append, decide_eq_true room]
    simp only [List.map_nil, List.append_nil, List.map_singleton]
  · rw [Nat.not_lt] at room
    rw [offered, offered, List.take_append_of_le_length room,
      List.drop_append_of_le_length room, List.map_append,
      decide_eq_false (Nat.not_lt.mpr room), List.append_assoc]
    rfl

/-- A new order is taken in while there is room. -/
theorem offer_answer {limits : RiskLimits} {orders : List OrderRequest}
    {system : System capacity} (filled : Filled limits orders system)
    {order : OrderRequest}
    (new : order.sequenceId ∉ orders.map OrderRequest.sequenceId) :
    (enqueue (tracked true) system order).1 =
      decide (orders.length < capacity) := by
  have unknown : order.sequenceId ∉ system.lifecycleTracker.records := by
    intro member
    exact new (filled.known _ member)
  cases room : system.pipeline.buffer.full with
  | true =>
      rw [enqueue_of_full (fun _ => unknown) room, eq_comm,
        decide_eq_false_iff_not, Nat.not_lt]
      exact filled.full_iff.mp room
  | false =>
      rw [enqueue_of_room (fun _ => unknown) room, eq_comm,
        decide_eq_true_eq, ← Nat.not_le, ← filled.full_iff, room]
      exact Bool.false_ne_true

section Offers

variable (limits : RiskLimits) (orders : List OrderRequest)

theorem run_enqueueCalls (system : System capacity) :
    run (step (tracked true)) system (orders.map .enqueue) =
      run (enqueue (tracked true)) system orders := by
  induction orders generalizing system with
  | nil => rfl
  | cons order orders induction => exact induction _

theorem notices_succ (count : Nat) :
    notices (count + 1) = notices count ++ dropNotice := by
  rw [notices, List.replicate_succ', List.flatten_concat]
  rfl

variable {orders}
  (distinct : (orders.map OrderRequest.sequenceId).Nodup)
include distinct

/-- What is seen of offers with distinct ids, and what is printed. -/
theorem run_offered :
    observedFresh capacity (tracked true) limits true
          (orders.map .enqueue) =
        offered capacity orders ∧
      run enqueuePrinting ((fresh limits true : System capacity), [])
          orders =
        (run (enqueue (tracked true)) (fresh limits true) orders,
          notices (orders.length - capacity)) := by
  induction orders using List.reverseRecOn with
  | nil =>
      constructor
      · rw [offered, List.take_nil, List.drop_nil]
        rfl
      · rw [List.length_nil, Nat.zero_sub]
        rfl
  | append_singleton orders last induction =>
      rw [List.map_append, List.map_singleton, List.nodup_append]
        at distinct
      rcases distinct with ⟨earlier, _, apart⟩
      have new :
          last.sequenceId ∉ orders.map OrderRequest.sequenceId := by
        intro member
        exact apart _ member _ (List.mem_singleton_self _) rfl
      have filled : Filled limits orders (_ : System capacity) :=
        run_filled limits orders earlier
      have answer := offer_answer filled new
      rcases induction earlier with ⟨seen, printed⟩
      constructor
      · rw [observedFresh] at seen
        rw [observedFresh, List.map_append, List.map_singleton,
          observed_concat, seen, offered_concat, ← answer,
          run_enqueueCalls]
        rfl
      · rw [run_concat, run_concat, printed, enqueuePrinting]
        simp only [answer, List.length_append, List.length_singleton]
        refine congrArg (Prod.mk _) ?_
        by_cases room : orders.length < capacity
        · rw [decide_eq_true room, if_neg (by decide),
            Nat.sub_eq_zero_of_le room.le, Nat.sub_eq_zero_of_le room]
        · rw [decide_eq_false room, if_pos (by decide),
            Nat.sub_add_comm (Nat.not_lt.mp room), notices_succ]

end Offers

/-! ## The drain -/

/-- What becomes of an order in the buffer. -/
def checkedOutcome (limits : RiskLimits) (order : OrderRequest) :
    DrainOutcome :=
  match (PreTradeRiskManager.ofLimits limits).firstFailure order with
  | some reason => .riskRejected reason
  | none =>
      .dispatched true (some .sent)
        { sequenceId := order.sequenceId, accepted := true,
          rejectReason := .none }

/-- The iteration of the drain that handles an order. -/
def checkedCall (limits : RiskLimits) (order : OrderRequest) : DrainCall where
  order := order
  outcome := checkedOutcome limits order

section Drain

variable {limits : RiskLimits} {counts : Nat × Nat × Nat}
  {orders : List OrderRequest} {system : System capacity}

/-- The step lemma: the risk check alone decides about an order. -/
theorem drainStep_checked (drained : Drained limits counts orders system)
    {call : DrainCall} {next : System capacity}
    (head : drainStep (tracked true) system = some (call, next)) :
    call = checkedCall limits call.order := by
  have effect := drainStep_effect drained.synchronised head
  cases effect with
  | refusedByRisk queue found checks failure =>
      rw [drained.decisions] at failure
      rw [checkedCall, checkedOutcome, failure]
  | acceptedOrder queue found passes valid =>
      have failure := passes rfl
      rw [drained.decisions] at failure
      rw [checkedCall, checkedOutcome, failure]
  | rejectedOrder queue found passes invalid =>
      have permits :=
        (PreTradeRiskManager.firstFailure_eq_none_iff _ _).mp (passes rfl)
      exact absurd (validOrder_of_permits permits) invalid

/-- The run lemma: a drain checks the orders of the queue in turn. -/
theorem drainTrace_checked (drained : Drained limits counts orders system)
    {calls : List DrainCall} {final : System capacity}
    (trace : DrainTrace (tracked true) system calls final) :
    calls = (calls.map DrainCall.order).map (checkedCall limits) := by
  induction trace generalizing orders with
  | done _ => rfl
  | step head _ induction =>
      rw [List.map_cons, List.map_cons, ← induction (drained.drainStep head),
        ← drainStep_checked drained head]

end Drain

/-! ## The whole run -/

/-- The calls of `main` on its pipeline. -/
def mainCalls (orders : List OrderRequest) : List Call :=
  orders.map .enqueue ++ [.drain]

/-- What is seen of them. -/
def mainObservations (capacity : ℕ+) (limits : RiskLimits)
    (orders : List OrderRequest) : List Observation :=
  offered capacity orders ++
    (orders.take capacity).map fun order =>
      .drained (checkedCall limits order)

/-- What they decide. -/
def mainDecisions (capacity : ℕ+) (limits : RiskLimits)
    (orders : List OrderRequest) : List (UInt64 × Decision) :=
  (orders.take capacity).map (fun order => (order.sequenceId, .queued)) ++
    (orders.take capacity).map fun order =>
      (order.sequenceId,
        match (PreTradeRiskManager.ofLimits limits).firstFailure order with
        | some reason => .riskRejected reason
        | none => .accepted)

/-- How often each kind of observation is made. -/
def mainTally (capacity : ℕ+) (limits : RiskLimits)
    (orders : List OrderRequest) : Tally where
  unqueued := (orders.drop capacity).length
  queued := (orders.take capacity).length
  riskRejected :=
    (orders.take capacity).countP fun order => ¬ passesCheck limits order
  accepted := (orders.take capacity).countP (passesCheck limits)

theorem decisionOf_checkedCall (limits : RiskLimits)
    (order : OrderRequest) :
    decisionOf (.drained (checkedCall limits order)) =
      some
        (order.sequenceId,
          match
            (PreTradeRiskManager.ofLimits limits).firstFailure order with
          | some reason => .riskRejected reason
          | none => .accepted) := by
  rw [checkedCall, decisionOf, checkedOutcome]
  cases (PreTradeRiskManager.ofLimits limits).firstFailure order <;> rfl

theorem mainObservations_decisions (limits : RiskLimits)
    (orders : List OrderRequest) :
    (mainObservations capacity limits orders).filterMap decisionOf =
      mainDecisions capacity limits orders := by
  rw [mainObservations, offered, List.filterMap_append,
    List.filterMap_append, List.filterMap_map, List.filterMap_map,
    List.filterMap_map, mainDecisions]
  have dropped :
      decisionOf ∘ (Observation.enqueued · false) = fun _ => none := rfl
  have queued :
      decisionOf ∘ (Observation.enqueued · true) =
        some ∘ fun order => (order.sequenceId, Decision.queued) := rfl
  have checked :
      (decisionOf ∘ fun order => .drained (checkedCall limits order)) =
        some ∘ fun order => _ :=
    funext (decisionOf_checkedCall limits)
  rw [dropped, queued, checked, List.filterMap_eq_map,
    List.filterMap_eq_map]
  simp only [List.filterMap_none, List.append_nil]

theorem add_checkedCall (limits : RiskLimits) (tally : Tally)
    (order : OrderRequest) :
    tally.add (.drained (checkedCall limits order)) =
      if passesCheck limits order then
        { tally with accepted := tally.accepted + 1 }
      else { tally with riskRejected := tally.riskRejected + 1 } := by
  have passes := passesCheck_iff limits order
  rw [checkedCall, checkedOutcome]
  cases failure :
      (PreTradeRiskManager.ofLimits limits).firstFailure order with
  | none => rw [if_pos (passes.mpr failure)]; rfl
  | some reason =>
      have refused : ¬ passesCheck limits order = true := by
        rw [passes, failure]
        exact Option.some_ne_none reason
      rw [if_neg refused]
      rfl

section Tallies

variable (orders : List OrderRequest) (tally : Tally)

/-- This many offers that were all taken in, or all refused. -/
def withOffers (accepted : Bool) (count : Nat) : Tally :=
  if accepted then { tally with queued := tally.queued + count }
  else { tally with unqueued := tally.unqueued + count }

theorem foldl_enqueued (accepted : Bool) :
    (orders.map (Observation.enqueued · accepted)).foldl Tally.add tally =
      withOffers tally accepted orders.length := by
  induction orders generalizing tally with
  | nil => cases accepted <;> rfl
  | cons order orders induction =>
      rw [List.map_cons, List.foldl_cons, induction, List.length_cons]
      cases accepted <;>
        simp [withOffers, Tally.add, Nat.add_assoc, Nat.add_comm 1]

theorem foldl_checked (limits : RiskLimits) :
    (orders.map fun order =>
          Observation.drained (checkedCall limits order)).foldl
        Tally.add tally =
      { tally with
        riskRejected :=
          tally.riskRejected +
            orders.countP fun order => ¬ passesCheck limits order
        accepted :=
          tally.accepted + orders.countP (passesCheck limits) } := by
  induction orders generalizing tally with
  | nil => rfl
  | cons order orders induction =>
      rw [List.map_cons, List.foldl_cons, induction, add_checkedCall,
        List.countP_cons, List.countP_cons]
      cases passesCheck limits order with
      | true => simp [Nat.add_assoc, Nat.add_comm 1]
      | false => simp [Nat.add_assoc, Nat.add_comm 1]

end Tallies

theorem mainObservations_tally (limits : RiskLimits)
    (orders : List OrderRequest) :
    tallyOf (mainObservations capacity limits orders) =
      mainTally capacity limits orders := by
  rw [tallyOf, mainObservations, offered, List.foldl_append,
    List.foldl_append, foldl_enqueued, foldl_enqueued, foldl_checked]
  simp only [mainTally, withOffers, Bool.false_eq_true, if_true, if_false,
    Nat.zero_add]

/-- The journal of `main`, written down from the orders. -/
def mainJournal (capacity : ℕ+) (limits : RiskLimits)
    (orders : List OrderRequest) : ExecutionReportJournal :=
  recordAll {} (transcript (mainDecisions capacity limits orders))

/-- The figures of `main`, worked out from the feed and the orders. -/
def mainFigures (capacity : ℕ+) (limits : RiskLimits) (lineCount : Nat)
    (orders : List OrderRequest) : Figures :=
  let tally := mainTally capacity limits orders
  let reports := 2 * tally.queued + tally.riskRejected + 2 * tally.accepted
  { linesRead := lineCount
    updatesParsed := lineCount
    signalsSeen := lineCount
    ordersGenerated := orders.length
    pipelineEnqueued := tally.queued
    pipelineDropped := tally.unqueued
    pipelineDrained := tally.queued
    pipelineAccepted := tally.accepted
    pipelineRejected := tally.riskRejected
    gatewaySent := tally.accepted
    gatewayAccepted := tally.accepted
    gatewayRejected := 0
    lifecycleRegistered := tally.queued
    lifecycleQueued := tally.queued
    lifecycleRiskRejected := tally.riskRejected
    lifecycleSent := tally.accepted
    lifecycleExchangeAccepted := tally.accepted
    lifecycleExchangeRejected := 0
    lifecycleTransitionErrors := 0
    reportsRecorded := reports
    rejectionReports := tally.riskRejected
    orderReports := reports
    actionReports := 0 }

/-- The system of `main` after its drain. -/
def mainSystem (capacity : ℕ+) (limits : RiskLimits)
    (orders : List OrderRequest) : System capacity :=
  (drain (tracked true)
    (run (enqueue (tracked true)) (fresh limits true) orders)).system

section Whole

variable (limits : RiskLimits) {orders : List OrderRequest}
  (distinct : (orders.map OrderRequest.sequenceId).Nodup)

theorem mainSystem_eq_runFresh :
    mainSystem capacity limits orders =
      runFresh (tracked true) limits true (mainCalls orders) := by
  rw [runFresh, mainCalls, run_concat, run_enqueueCalls]
  rfl

include distinct

/-- The run lemma: everything that is seen of the calls of `main`. -/
theorem main_observed :
    observedFresh capacity (tracked true) limits true (mainCalls orders) =
      mainObservations capacity limits orders := by
  have filled : Filled limits orders (_ : System capacity) :=
    run_filled limits orders distinct
  have seen :
      observedFresh capacity (tracked true) limits true
          (orders.map .enqueue) = offered capacity orders :=
    (run_offered limits distinct).1
  have untouched :
      Drained limits _ []
        (run (enqueue (tracked true)) (fresh limits true) orders :
          System capacity) :=
    { synchronised := filled.synchronised
      decisions := by rw [filled.riskManager]
      counts := rfl
      active := by
        rw [filled.exchange]
        exact .empty }
  have trace :=
    (drain_trace (tracked true)
      (run (enqueue (tracked true)) (fresh limits true) orders :
        System capacity)).1
  have checked := drainTrace_checked untouched trace
  rw [trace.orders.1, filled.contents] at checked
  rw [observedFresh] at seen
  rw [observedFresh, mainCalls, observed_concat, seen, run_enqueueCalls,
    mainObservations]
  refine congrArg (offered capacity orders ++ ·) ?_
  refine (congrArg (List.map Observation.drained) checked).trans ?_
  rw [List.map_map]
  rfl

theorem main_journal :
    (mainSystem capacity limits orders).lifecycleTracker.executionReports =
      some (mainJournal capacity limits orders) := by
  rw [mainSystem_eq_runFresh, runFresh_transcript, main_observed limits
    distinct, mainObservations_decisions]
  rfl

theorem main_tallied :
    Tallied true true (mainTally capacity limits orders)
      (mainSystem capacity limits orders) := by
  rw [mainSystem_eq_runFresh, ← mainObservations_tally,
    ← main_observed limits distinct]
  exact runFresh_tallied limits (mainCalls orders)

/-- Every figure is the one that was worked out. -/
theorem main_figures (lineCount : Nat) {strategy : SimpleStrategy}
    (signals : strategy.signalsSeen = lineCount)
    (generated : strategy.ordersGenerated = orders.length) :
    figuresOf
        { status := .ok
          linesRead := lineCount
          updatesParsed := lineCount }
        strategy (mainSystem capacity limits orders) =
      mainFigures capacity limits lineCount orders := by
  have tallied : Tallied true true _ (mainSystem capacity limits orders) :=
    main_tallied limits distinct
  have pipeline := tallied.pipeline
  have journal := tallied.journal
  have dropped :
      (mainSystem capacity limits orders).pipeline.ordersDroppedOnEnqueue =
        (mainTally capacity limits orders).unqueued := by
    have filled : Filled limits orders (_ : System capacity) :=
      run_filled limits orders distinct
    have counts := filled.drain.1.counts
    simp only [offerCounts, Prod.mk.injEq] at counts
    refine (counts.2.1.trans filled.dropped).trans ?_
    show _ = (orders.drop capacity).length
    rw [List.length_drop]
    omega
  have handled :
      (mainTally capacity limits orders).queued =
        (mainTally capacity limits orders).riskRejected +
          (mainTally capacity limits orders).accepted := by
    rw [Nat.add_comm]
    exact List.length_eq_countP_add_countP (passesCheck limits)
  rw [main_journal limits distinct] at journal
  simp only [Option.map_some, if_true, Option.some.injEq, journalLedger,
    Tally.journal, JournalLedger.mk.injEq] at journal
  simp only [pipelineLedger, Tally.pipeline, PipelineLedger.mk.injEq]
    at pipeline
  have rejected : (mainTally capacity limits orders).rejected = 0 := rfl
  have refused :
      (mainTally capacity limits orders).cancelRefused = 0 ∧
        (mainTally capacity limits orders).amendRefused = 0 ∧
        (mainTally capacity limits orders).amendRejected = 0 :=
    ⟨rfl, rfl, rfl⟩
  have actions :
      (mainTally capacity limits orders).actionReports = 0 := rfl
  simp only [figuresOf, mainFigures, journalOf,
    main_journal limits distinct, Option.getD_some, tallied.gateway,
    tallied.counters, tallied.transitionErrors, Tally.gateway,
    Tally.counters, Tally.orderReports, signals, generated, dropped,
    pipeline, journal, rejected, refused, actions, handled, Nat.add_zero]

end Whole

/-! ## What is printed -/

theorem recordAll_singleLine {journal : ExecutionReportJournal}
    (singleLine : ∀ report ∈ journal.reports, 10 ∉ report.rejectReason)
    (calls : List (UInt64 × JournalCall)) :
    ∀ report ∈ (recordAll journal calls).reports,
      10 ∉ report.rejectReason := by
  induction calls generalizing journal with
  | nil => exact singleLine
  | cons call calls induction =>
      rw [recordAll, List.foldl_cons]
      apply induction
      intro report member
      rw [call.2.reports_applyTo, List.mem_append, List.mem_singleton]
        at member
      rcases member with earlier | rfl
      · exact singleLine report earlier
      · exact newline_not_mem_reason _ _ _

/-- The lines of a summary are not mistaken for each other. -/
theorem summaryLines_readable (figures : Figures)
    {reports : List ExecutionReport}
    (singleLine : ∀ report ∈ reports, 10 ∉ report.rejectReason) :
    ∀ line ∈ summaryLines figures reports, Readable line := by
  rw [summaryLines, List.forall_mem_append, List.forall_mem_map]
  refine ⟨?_, singleLine⟩
  simp only [List.forall_mem_cons, List.not_mem_nil, false_implies,
    implies_true, and_true, figure, Readable]
  and_intros <;> decide

/-- The callback feeds the orders of the strategy to the pipeline. -/
theorem onUpdatePrinting_eq_cascade :
    (onUpdatePrinting :
        SimpleStrategy × System capacity × ByteString →
          MarketDataUpdate → _) =
      cascade onMarketData enqueuePrinting := by
  funext state update
  simp only [onUpdatePrinting, cascade]
  cases (onMarketData state.1 update).1 <;> rfl

/-- The objects and the notices after these lines were replayed. -/
theorem deliver_onUpdatePrinting (limits : RiskLimits) (minSpread : Float)
    {lines : List ByteString} (few : lines.length < UInt64.size) :
    deliver onUpdatePrinting
        (newStrategy minSpread, (fresh limits true : System capacity), [])
        lines =
      (run onMarketData (newStrategy minSpread) (lines.map updateOf),
        run (enqueue (tracked true)) (fresh limits true)
          (generatedOrders minSpread (lines.map updateOf)),
        notices
          ((generatedOrders minSpread (lines.map updateOf)).length -
            capacity)) := by
  rw [← List.length_map updateOf] at few
  have distinct := generatedOrders_distinct minSpread _ few
  rw [deliver, onUpdatePrinting_eq_cascade, foldl_cascade,
    ← (run_offered limits distinct).2]
  rfl

/-- What `main` prints for a line that does not parse. -/
theorem failureText_parseError {replayResult : FeedReplayResult}
    (failed : replayResult.status = .parseError)
    (few : replayResult.errorLine < UInt64.size) :
    failureText replayResult =
      text "Feed replay failed: parse_error\n" ++
        (text "  error_line=" ++ Decimal.numeral replayResult.errorLine ++
          text "\n") := by
  have number :
      printed (UInt64.ofNat replayResult.errorLine) =
        Decimal.numeral replayResult.errorLine := by
    rw [printed, UInt64.toNat_ofNat_of_lt' few]
  rw [failureText, failed, if_pos rfl, number]
  rfl

/--
What the program prints, for every feed with fewer lines than there are ids.
Without a file, or with a line that does not parse, it prints no summary and
fails, with the number of the line.  Otherwise the summary is the one that is
worked out from the number of lines and the generated orders, and it can be
read back.  There is a notice for every order behind the first that fill the
buffer.  In every case the streams tell what the objects are left with.
-/
theorem main_prints (capacity : ℕ+) (riskLimits : RiskLimits)
    (minSpread : Float) (lines : List ByteString)
    (few : lines.length < UInt64.size) :
    let generated (lines : List ByteString) :=
      generatedOrders minSpread (lines.map updateOf)
    let program := printingMain capacity riskLimits minSpread
    program none =
        { exitCode := 1
          output := []
          errors := text "Feed replay failed: file_open_failed\n" } ∧
      (∀ before line after,
        lines = before ++ line :: after →
          (∀ line ∈ before, Parses line) → ¬ Parses line →
            program (some lines) =
              { exitCode := 1
                output := []
                errors :=
                  notices ((generated before).length - capacity) ++
                    (text "Feed replay failed: parse_error\n" ++
                      (text "  error_line=" ++
                        Decimal.numeral (before.length + 1) ++
                        text "\n")) }) ∧
      ((∀ line ∈ lines, Parses line) →
        let summary :=
          summaryLines
            (mainFigures capacity riskLimits lines.length
              (generated lines))
            (mainJournal capacity riskLimits (generated lines)).reports
        program (some lines) =
            { exitCode := 0
              output := printLines summary
              errors := notices ((generated lines).length - capacity) } ∧
          readLines (printLines summary) = some summary) ∧
      ∀ file,
        Tells (program file)
          (mainWith capacity riskLimits minSpread file) := by
  intro generated program
  refine ⟨rfl, ?_, ?_, printingMain_tells riskLimits minSpread⟩
  · rintro before line after rfl parse refused
    rw [List.length_append, List.length_cons] at few
    have fewer : before.length + 1 < UInt64.size := by omega
    simp only [program, printingMain,
      replay_of_error onUpdatePrinting _ parse refused,
      deliver_onUpdatePrinting riskLimits minSpread
        (Nat.lt_of_succ_lt fewer)]
    rw [if_pos (by decide), failureText_parseError rfl fewer]
  · intro parse summary
    have ids := few
    rw [← List.length_map updateOf] at ids
    have distinct := generatedOrders_distinct minSpread _ ids
    have issued := run_issued minSpread _ ids
    have figures :
        figuresOf _ _ (mainSystem capacity riskLimits (generated lines)) =
          mainFigures capacity riskLimits lines.length (generated lines) :=
      main_figures riskLimits distinct lines.length
        (issued.signals.trans (List.length_map updateOf)) issued.generated
    have journal :
        journalOf (mainSystem capacity riskLimits (generated lines)) =
          mainJournal capacity riskLimits (generated lines) := by
      rw [journalOf, main_journal riskLimits distinct]
      rfl
    constructor
    · simp only [program, printingMain,
        replay_of_parses onUpdatePrinting _ parse,
        deliver_onUpdatePrinting riskLimits minSpread few]
      rw [if_neg (by decide)]
      rw [show summary = summaryLines _ _ from rfl, ← figures, ← journal]
      rfl
    · apply readLines_printLines
      apply summaryLines_readable
      exact recordAll_singleLine (List.forall_mem_nil _) _

/-- The first lines of the sample feed leave no notice. -/
theorem main_prints_sampleFeed :
    (printingMain 16 mainLimits 0.02 (some sampleFeed)).exitCode = 0 ∧
      (printingMain 16 mainLimits 0.02 (some sampleFeed)).errors =
        notices
          ((generatedOrders 0.02 (sampleFeed.map updateOf)).length -
            16) := by
  have prints :=
    ((main_prints 16 mainLimits 0.02 sampleFeed (by decide)).2.2.1
      (by decide)).1
  rw [prints]
  exact ⟨rfl, rfl⟩

end Llgw.MainOutput
