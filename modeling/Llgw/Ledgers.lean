import Llgw.Synchronisation

/-!
# The ledgers of a tracked system

Pipeline, risk manager, gateway, tracker and journal count the same events
independently.  A `Tally` counts the observations of a run once and for all,
and every counter of every component is shown to be a function of it.  The
ledgers therefore reconcile with each other.
-/

namespace Llgw.Ledgers

open Llgw.Foundation.KeyedStore
open Llgw.Messages
open Llgw.Risk
open Llgw.Exchange
open Llgw.Reports
open Llgw.Lifecycle
open Llgw.LifecycleMarks
open Llgw.Gateway
open Llgw.Pipeline
open Llgw.System
open Llgw.StepEffects
open Llgw.Effects
open Llgw.Synchronisation

variable {capacity : ℕ+} {riskManager attached : Bool}
  {system : System capacity}

/-! ## The tally of a history -/

/-- How often each kind of observation was made. -/
structure Tally where
  unqueued : Nat := 0
  queued : Nat := 0
  riskRejected : Nat := 0
  accepted : Nat := 0
  rejected : Nat := 0
  cancelRefused : Nat := 0
  cancelled : Nat := 0
  amendRefused : Nat := 0
  amended : Nat := 0
  amendRejected : Nat := 0

/-- Count one observation. -/
def Tally.add (tally : Tally) : Observation → Tally
  | .enqueued _ true => { tally with queued := tally.queued + 1 }
  | .enqueued _ false => { tally with unqueued := tally.unqueued + 1 }
  | .drained { outcome := .riskRejected _, .. } =>
      { tally with riskRejected := tally.riskRejected + 1 }
  | .drained { outcome := .dispatched _ _ { accepted := true, .. }, .. } =>
      { tally with accepted := tally.accepted + 1 }
  | .drained _ => { tally with rejected := tally.rejected + 1 }
  | .cancelled _ { accepted := true, .. } =>
      { tally with cancelled := tally.cancelled + 1 }
  | .cancelled _ _ =>
      { tally with cancelRefused := tally.cancelRefused + 1 }
  | .amended _ { accepted := true, .. } =>
      { tally with amended := tally.amended + 1 }
  | .amended _ { rejectReason := .invalidState, .. } =>
      { tally with amendRefused := tally.amendRefused + 1 }
  | .amended _ _ =>
      { tally with amendRejected := tally.amendRejected + 1 }

/-- The tally of a sequence of observations. -/
def tallyOf (history : List Observation) : Tally :=
  history.foldl Tally.add {}

theorem tallyOf_concat (history : List Observation)
    (observation : Observation) :
    tallyOf (history ++ [observation]) =
      (tallyOf history).add observation := by
  rw [tallyOf, List.foldl_append]
  rfl

/-- A rejection by the exchange is not mistaken for one by the tracker. -/
theorem add_rejectedAmend (tally : Tally) (request : AmendRequest)
    {reason : AmendRejectReason} (permitted : reason ≠ .invalidState) :
    tally.add
        (.amended request
          { sequenceId := request.sequenceId, accepted := false,
            rejectReason := reason }) =
      { tally with amendRejected := tally.amendRejected + 1 } := by
  cases reason with
  | invalidState => contradiction
  | _ => rfl

/-! ## The counters that a tally determines -/

/-- The counters of a pipeline; the two kinds of unqueued orders are added. -/
structure PipelineLedger where
  enqueued : Nat
  unqueued : Nat
  drained : Nat
  accepted : Nat
  rejected : Nat
  rejectedByRisk : Nat
  rejectedByGateway : Nat
  lifecycleTransitionErrors : Nat

def pipelineLedger (pipeline : OrderPipeline capacity) : PipelineLedger where
  enqueued := pipeline.ordersEnqueued
  unqueued :=
    pipeline.ordersDroppedOnEnqueue +
      pipeline.ordersRejectedByLifecycleOnEnqueue
  drained := pipeline.ordersDrained
  accepted := pipeline.ordersAccepted
  rejected := pipeline.ordersRejected
  rejectedByRisk := pipeline.ordersRejectedByRisk
  rejectedByGateway := pipeline.ordersRejectedByGateway
  lifecycleTransitionErrors := pipeline.lifecycleTransitionErrors

def Tally.pipeline (tally : Tally) : PipelineLedger where
  enqueued := tally.queued
  unqueued := tally.unqueued
  drained := tally.riskRejected + tally.accepted + tally.rejected
  accepted := tally.accepted
  rejected := tally.riskRejected + tally.rejected
  rejectedByRisk := tally.riskRejected
  rejectedByGateway := tally.rejected
  lifecycleTransitionErrors := 0

/-- The three totals of a risk manager. -/
structure RiskLedger where
  checked : Nat
  accepted : Nat
  rejected : Nat

def riskLedger (manager : PreTradeRiskManager) : RiskLedger where
  checked := manager.ordersChecked
  accepted := manager.ordersAccepted
  rejected := manager.ordersRejected

def Tally.risk (tally : Tally) : RiskLedger where
  checked := tally.riskRejected + tally.accepted + tally.rejected
  accepted := tally.accepted + tally.rejected
  rejected := tally.riskRejected

def Tally.gateway (tally : Tally) : OrderGateway where
  ordersSent := tally.accepted + tally.rejected
  ordersAccepted := tally.accepted
  ordersRejected := tally.rejected
  cancelsSent := tally.cancelled + tally.cancelRefused
  cancelsAccepted := tally.cancelled
  cancelsRejected := tally.cancelRefused
  amendsSent := tally.amended + tally.amendRejected + tally.amendRefused
  amendsAccepted := tally.amended
  amendsRejected := tally.amendRejected + tally.amendRefused
  lifecycleTransitionErrors := tally.cancelRefused + tally.amendRefused

/-- The counters of successful calls of the tracker. -/
def Tally.counters (tally : Tally) : LifecycleCounters where
  ordersRegistered := tally.queued
  ordersQueued := tally.queued
  ordersRiskRejected := tally.riskRejected
  ordersSent := tally.accepted + tally.rejected
  ordersExchangeAccepted := tally.accepted
  ordersExchangeRejected := tally.rejected
  cancelRequests := tally.cancelled
  cancelsAccepted := tally.cancelled
  cancelsRejected := 0
  amendRequests := tally.amended + tally.amendRejected
  amendsAccepted := tally.amended
  amendsRejected := tally.amendRejected

/-- The length of a journal and its statistics. -/
structure JournalLedger where
  entries : Nat
  recorded : Nat
  rejections : Nat
  orders : Nat
  actions : Nat

def journalLedger (journal : ExecutionReportJournal) : JournalLedger where
  entries := journal.reports.length
  recorded := journal.reportsRecorded
  rejections := journal.rejectionReports
  orders := journal.orderReports
  actions := journal.actionReports

/-- The reports of orders: two to queue an order and two to submit it. -/
def Tally.orderReports (tally : Tally) : Nat :=
  2 * tally.queued + tally.riskRejected +
    2 * (tally.accepted + tally.rejected)

/-- The reports of actions: two for each that reached the exchange. -/
def Tally.actionReports (tally : Tally) : Nat :=
  2 * (tally.cancelled + tally.amended + tally.amendRejected)

def Tally.journal (tally : Tally) : JournalLedger where
  entries := tally.orderReports + tally.actionReports
  recorded := tally.orderReports + tally.actionReports
  rejections :=
    tally.riskRejected + tally.rejected + tally.amendRejected
  orders := tally.orderReports
  actions := tally.actionReports

/-- Every ledger of the system is a function of the tally. -/
structure Tallied (riskManager attached : Bool) (tally : Tally)
    (system : System capacity) : Prop where
  pipeline : pipelineLedger system.pipeline = tally.pipeline
  risk : riskManager = true → riskLedger system.riskManager = tally.risk
  gateway : system.gateway = tally.gateway
  counters : system.lifecycleTracker.counters = tally.counters
  transitionErrors :
    system.lifecycleTracker.errors.transitionErrors =
      tally.cancelRefused + tally.amendRefused
  duplicateErrors :
    system.lifecycleTracker.errors.duplicateOrderErrors = 0
  active :
    system.exchange.activeOrderCount + tally.cancelled = tally.accepted
  journal :
    system.lifecycleTracker.executionReports.map journalLedger =
      if attached then some tally.journal else none

theorem tallied_fresh (limits : RiskLimits) :
    Tallied riskManager attached {} (fresh limits attached : System capacity) where
  pipeline := rfl
  risk _ := rfl
  gateway := rfl
  counters := rfl
  transitionErrors := rfl
  duplicateErrors := rfl
  active := rfl
  journal := by cases attached <;> rfl

/-! ## The journal -/

/-- A ledger with the report of one more mark. -/
def JournalLedger.add (ledger : JournalLedger) (mark : Mark) :
    JournalLedger where
  entries := ledger.entries + 1
  recorded := ledger.recorded + 1
  rejections :=
    ledger.rejections + if mark.rejectSource ≠ .none then 1 else 0
  orders := ledger.orders + if isActionReport mark.reportType then 0 else 1
  actions :=
    ledger.actions + if isActionReport mark.reportType then 1 else 0

theorem journalLedger_report (mark : Mark) (sequenceId : UInt64)
    (journal : ExecutionReportJournal) :
    journalLedger (mark.report sequenceId journal) =
      (journalLedger journal).add mark := by
  simp only [journalLedger, Mark.report, ExecutionReportJournal.record,
    JournalLedger.add, List.length_append, List.length_singleton]
  split_ifs <;> rfl

section Journal

variable (tracker : OrderLifecycleTracker) (sequenceId : UInt64)
  (record : OrderLifecycleRecord)

theorem journalLedger_marked (mark : Mark) :
    (marked tracker sequenceId record mark).executionReports.map
        journalLedger =
      (tracker.executionReports.map journalLedger).map
        (fun ledger => ledger.add mark) := by
  simp only [marked, Option.map_map]
  congr 1
  funext journal
  exact journalLedger_report mark sequenceId journal

theorem journalLedger_completed (first second : Mark) :
    (completed tracker sequenceId record first
        second).executionReports.map journalLedger =
      (tracker.executionReports.map journalLedger).map
        (fun ledger => (ledger.add first).add second) := by
  rw [completed, journalLedger_marked, journalLedger_marked,
    Option.map_map]
  rfl

/-- A registration makes two reports about the order. -/
theorem journalLedger_enqueued :
    (enqueued tracker sequenceId).executionReports.map journalLedger =
      (tracker.executionReports.map journalLedger).map
        (fun ledger =>
          { ledger with
            entries := ledger.entries + 2
            recorded := ledger.recorded + 2
            orders := ledger.orders + 2 }) := by
  rw [enqueued, journalLedger_marked]
  simp only [registered, Option.map_map]
  congr 1
  funext journal
  simp [journalLedger, JournalLedger.add,
    ExecutionReportJournal.recordState, ExecutionReportJournal.record,
    isActionReport, Mark.reportType, Mark.rejectSource]

end Journal

/-! ## Every effect is counted by every ledger -/

section Effects

variable {tally : Tally} (tallied : Tallied riskManager attached tally system)
include tallied

theorem tallied_journal_completed (sequenceId : UInt64)
    (record : OrderLifecycleRecord) {first second : Mark} {next : Tally}
    (adds : (tally.journal.add first).add second = next.journal) :
    (completed system.lifecycleTracker sequenceId record first
        second).executionReports.map journalLedger =
      if attached then some next.journal else none := by
  rw [journalLedger_completed, tallied.journal, ← adds]
  cases attached <;> rfl

theorem tallied_refusedAsKnown (request : OrderRequest) :
    Tallied riskManager attached (tally.add (.enqueued request false))
      (refusedAsKnown system) :=
  { tallied with
    pipeline := by
      have held := tallied.pipeline
      simp only [pipelineLedger, Tally.pipeline, PipelineLedger.mk.injEq,
        refusedAsKnown, Tally.add] at held ⊢
      omega }

theorem tallied_dropped (request : OrderRequest) :
    Tallied riskManager attached (tally.add (.enqueued request false))
      (dropped system) :=
  { tallied with
    pipeline := by
      have held := tallied.pipeline
      simp only [pipelineLedger, Tally.pipeline, PipelineLedger.mk.injEq,
        dropped, Tally.add] at held ⊢
      omega }

theorem tallied_joined (request : OrderRequest) :
    Tallied riskManager attached (tally.add (.enqueued request true))
      (joined (tracked riskManager) system request) :=
  { tallied with
    pipeline := by
      have held := tallied.pipeline
      simp only [pipelineLedger, Tally.pipeline, PipelineLedger.mk.injEq,
        joined, Tally.add] at held ⊢
      omega
    counters := by
      have held := tallied.counters
      simp only [joined, tracked, if_true, enqueued, marked, registered,
        Mark.count, held, Tally.counters, Tally.add]
    journal := by
      have held := journalLedger_enqueued system.lifecycleTracker
        request.sequenceId
      rw [tallied.journal] at held
      refine held.trans ?_
      cases attached
      · rfl
      · simp [Tally.journal, Tally.orderReports, Tally.actionReports,
          Tally.add]
        omega }

theorem tallied_refusedByRisk (order : OrderRequest)
    (record : OrderLifecycleRecord) (reason : RiskRejectReason) :
    Tallied riskManager attached
      (tally.add
        (.drained { order := order, outcome := .riskRejected reason }))
      (refusedByRisk (tracked riskManager)
        (popped system (restBuffer system)) order record reason) :=
  { tallied with
    pipeline := by
      have held := tallied.pipeline
      simp only [pipelineLedger, Tally.pipeline, PipelineLedger.mk.injEq,
        refusedByRisk, popped, countRiskReject, Tally.add] at held ⊢
      omega
    risk checks := by
      have held := tallied.risk checks
      simp only [riskLedger, Tally.risk, RiskLedger.mk.injEq, refusedByRisk,
        popped, PreTradeRiskManager.afterReject_ordersChecked,
        PreTradeRiskManager.afterReject_ordersAccepted,
        PreTradeRiskManager.afterReject_ordersRejected, Tally.add]
        at held ⊢
      omega
    counters := by
      have held := tallied.counters
      simp only [refusedByRisk, markedIf, tracked, if_true, popped, marked,
        Mark.count, held, Tally.counters, Tally.add]
    journal := by
      have held := journalLedger_marked system.lifecycleTracker
        order.sequenceId record (.riskRejected reason)
      rw [tallied.journal] at held
      refine held.trans ?_
      cases attached
      · rfl
      · simp [JournalLedger.add, Mark.reportType, Mark.rejectSource,
          isActionReport, Tally.journal, Tally.orderReports,
          Tally.actionReports, Tally.add]
        omega }

theorem tallied_risk_passedOn (checks : riskManager = true) :
    riskLedger (passedOn riskManager system).riskManager =
      { tally.risk with
        checked := tally.risk.checked + 1
        accepted := tally.risk.accepted + 1 } := by
  rw [← tallied.risk checks]
  simp only [passedOn, popped, passedManager, tracked, checks, if_true]
  rfl

theorem tallied_acceptedOrder {order : OrderRequest}
    (inactive : order.sequenceId ∉ system.exchange.activeOrders)
    (record : OrderLifecycleRecord) :
    Tallied riskManager attached
      (tally.add
        (.drained
          { order := order
            outcome :=
              .dispatched true (some .sent)
                { sequenceId := order.sequenceId, accepted := true,
                  rejectReason := .none } }))
      (acceptedOrder (passedOn riskManager system) order record) :=
  { tallied with
    pipeline := by
      have held := tallied.pipeline
      simp only [pipelineLedger, Tally.pipeline, PipelineLedger.mk.injEq,
        acceptedOrder, passedOn, popped, countAccept, Tally.add] at held ⊢
      omega
    risk checks := by
      have held := tallied_risk_passedOn tallied checks
      simp only [acceptedOrder, held, Tally.risk, Tally.add,
        RiskLedger.mk.injEq, and_true]
      omega
    gateway := by
      have held := tallied.gateway
      simp only [acceptedOrder, passedOn, popped, held, Tally.gateway,
        Tally.add, OrderGateway.mk.injEq, and_true]
      omega
    counters := by
      have held := tallied.counters
      simp only [acceptedOrder, passedOn, popped, completed, marked,
        Mark.count, held, Tally.counters, Tally.add,
        LifecycleCounters.mk.injEq, true_and, and_true]
      omega
    active := by
      have held := tallied.active
      simp only [acceptedOrder, ExchangeSimulator.activeOrderCount, passedOn,
        popped, card_keys_insert_of_notMem inactive, Tally.add] at held ⊢
      omega
    journal := by
      apply tallied_journal_completed tallied
      simp [JournalLedger.add, Mark.reportType, Mark.rejectSource,
        isActionReport, Tally.journal, Tally.orderReports,
        Tally.actionReports, Tally.add]
      omega }

theorem tallied_rejectedOrder (order : OrderRequest)
    (record : OrderLifecycleRecord) (reason : OrderRejectReason) :
    Tallied riskManager attached
      (tally.add
        (.drained
          { order := order
            outcome :=
              .dispatched true (some .sent)
                { sequenceId := order.sequenceId, accepted := false,
                  rejectReason := reason } }))
      (rejectedOrder (passedOn riskManager system) order record
        reason) :=
  { tallied with
    pipeline := by
      have held := tallied.pipeline
      simp only [pipelineLedger, Tally.pipeline, PipelineLedger.mk.injEq,
        rejectedOrder, passedOn, popped, countGatewayReject, Tally.add]
        at held ⊢
      omega
    risk checks := by
      have held := tallied_risk_passedOn tallied checks
      simp only [rejectedOrder, held, Tally.risk, Tally.add,
        RiskLedger.mk.injEq, and_true]
      omega
    gateway := by
      have held := tallied.gateway
      simp only [rejectedOrder, passedOn, popped, held, Tally.gateway,
        Tally.add, OrderGateway.mk.injEq, and_true]
      omega
    counters := by
      have held := tallied.counters
      simp only [rejectedOrder, passedOn, popped, completed, marked,
        Mark.count, held, Tally.counters, Tally.add,
        LifecycleCounters.mk.injEq, true_and, and_true]
      omega
    journal := by
      apply tallied_journal_completed tallied
      simp [JournalLedger.add, Mark.reportType, Mark.rejectSource,
        isActionReport, Tally.journal, Tally.orderReports,
        Tally.actionReports, Tally.add]
      omega }

theorem tallied_cancelRefused (request : CancelRequest)
    {error : LifecycleError} (actionError : ActionError error) :
    Tallied riskManager attached
      (tally.add (.cancelled request (cancelPath request).refusal))
      (refusedAction system (cancelPath request) error) :=
  { tallied with
    gateway := by
      have held := tallied.gateway
      simp only [refusedAction, cancelPath, countError, held, Tally.gateway,
        Tally.add, OrderGateway.mk.injEq, true_and]
      omega
    transitionErrors := by
      have held := tallied.transitionErrors
      simp only [refusedAction, failed_transitionErrors, held, cancelPath,
        Tally.add]
      omega
    duplicateErrors :=
      (failed_duplicateOrderErrors _ actionError.2).trans
        tallied.duplicateErrors }

theorem tallied_cancelledOrder {request : CancelRequest}
    (active : request.sequenceId ∈ system.exchange.activeOrders)
    (record : OrderLifecycleRecord) :
    Tallied riskManager attached
      (tally.add
        (.cancelled request
          { sequenceId := request.sequenceId, accepted := true,
            rejectReason := .none }))
      (cancelledOrder system request.sequenceId record) :=
  { tallied with
    gateway := by
      have held := tallied.gateway
      simp only [cancelledOrder, held, Tally.gateway, Tally.add,
        OrderGateway.mk.injEq, true_and, and_true]
      omega
    counters := by
      have held := tallied.counters
      simp only [cancelledOrder, completed, marked, Mark.count, held,
        Tally.counters, Tally.add]
    active := by
      have held := tallied.active
      have erased := card_keys_erase_of_mem active
      simp only [cancelledOrder, ExchangeSimulator.activeOrderCount,
        Tally.add] at held ⊢
      omega
    journal := by
      apply tallied_journal_completed tallied
      simp [JournalLedger.add, Mark.reportType, Mark.rejectSource,
        isActionReport, Tally.journal, Tally.orderReports,
        Tally.actionReports, Tally.add]
      omega }

theorem tallied_amendRefused (request : AmendRequest)
    {error : LifecycleError} (actionError : ActionError error) :
    Tallied riskManager attached
      (tally.add (.amended request (amendPath request).refusal))
      (refusedAction system (amendPath request) error) :=
  { tallied with
    gateway := by
      have held := tallied.gateway
      simp only [refusedAction, amendPath, countError, held, Tally.gateway,
        Tally.add, OrderGateway.mk.injEq, true_and]
      omega
    transitionErrors := by
      have held := tallied.transitionErrors
      simp only [refusedAction, failed_transitionErrors, held, amendPath,
        Tally.add]
      omega
    duplicateErrors :=
      (failed_duplicateOrderErrors _ actionError.2).trans
        tallied.duplicateErrors }

theorem tallied_acceptedAmend {request : AmendRequest}
    (order : OrderRequest)
    (active : request.sequenceId ∈ system.exchange.activeOrders)
    (record : OrderLifecycleRecord) :
    Tallied riskManager attached
      (tally.add
        (.amended request
          { sequenceId := request.sequenceId, accepted := true,
            rejectReason := .none }))
      (acceptedAmend system request record order) :=
  { tallied with
    gateway := by
      have held := tallied.gateway
      simp only [acceptedAmend, held, Tally.gateway, Tally.add,
        OrderGateway.mk.injEq, true_and, and_true]
      omega
    counters := by
      have held := tallied.counters
      simp only [acceptedAmend, completed, marked, Mark.count, held,
        Tally.counters, Tally.add, LifecycleCounters.mk.injEq, true_and,
        and_true]
      omega
    active := by
      have held := tallied.active
      simpa only [acceptedAmend, ExchangeSimulator.activeOrderCount,
        card_keys_insert_of_mem active, Tally.add] using held
    journal := by
      apply tallied_journal_completed tallied
      simp [JournalLedger.add, Mark.reportType, Mark.rejectSource,
        isActionReport, Tally.journal, Tally.orderReports,
        Tally.actionReports, Tally.add]
      omega }

theorem tallied_rejectedAmend (request : AmendRequest)
    (record : OrderLifecycleRecord)
    {reason : AmendRejectReason} (permitted : reason ≠ .invalidState) :
    Tallied riskManager attached
      (tally.add
        (.amended request
          { sequenceId := request.sequenceId, accepted := false,
            rejectReason := reason }))
      (rejectedAmend system request.sequenceId record reason) := by
  rw [add_rejectedAmend tally request permitted]
  exact
    { tallied with
      gateway := by
        have held := tallied.gateway
        simp only [rejectedAmend, held, Tally.gateway,
          OrderGateway.mk.injEq, true_and, and_true]
        omega
      counters := by
        have held := tallied.counters
        simp only [rejectedAmend, completed, marked, Mark.count, held,
          Tally.counters, LifecycleCounters.mk.injEq, true_and, and_true]
        omega
      journal := by
        apply tallied_journal_completed tallied
        simp [JournalLedger.add, Mark.reportType, Mark.rejectSource,
          isActionReport, Tally.journal, Tally.orderReports,
          Tally.actionReports]
        omega }

end Effects

/-- The step lemma: what is observed of an effect is what the ledgers count. -/
theorem Effect.tallied {tally : Tally} {observation : Observation}
    {next : System capacity}
    (effect : Effect riskManager system observation next)
    (synchronised : Synchronised system)
    (tallied : Tallied riskManager attached tally system) :
    Tallied riskManager attached (tally.add observation) next := by
  cases effect with
  | refusedAsKnown => exact tallied_refusedAsKnown tallied _
  | dropped => exact tallied_dropped tallied _
  | joined => exact tallied_joined tallied _
  | refusedByRisk => exact tallied_refusedByRisk tallied _ _ _
  | acceptedOrder queue =>
      exact tallied_acceptedOrder tallied (synchronised.inactive queue) _
  | rejectedOrder => exact tallied_rejectedOrder tallied _ _ _
  | cancelRefused illegal actionError =>
      exact tallied_cancelRefused tallied _ actionError
  | cancelledOrder found accepted =>
      rcases synchronised.active found accepted with ⟨order, active⟩
      have present := Finmap.mem_of_lookup_eq_some active
      exact tallied_cancelledOrder tallied present _
  | amendRefused illegal actionError =>
      exact tallied_amendRefused tallied _ actionError
  | acceptedAmend found accepted active =>
      have present := Finmap.mem_of_lookup_eq_some active
      exact tallied_acceptedAmend tallied _ present _
  | rejectedAmend found accepted given active permitted =>
      exact tallied_rejectedAmend tallied _ _ permitted

/-- The run lemma: after every run the ledgers are those of its tally. -/
theorem runFresh_tallied (limits : RiskLimits) (calls : List Call) :
    Tallied riskManager attached
      (tallyOf
        (observedFresh capacity (tracked riskManager) limits attached
          calls))
      (runFresh (tracked riskManager) limits attached calls :
        System capacity) :=
  runFresh_history
    (motive := fun past state =>
      Tallied riskManager attached (tallyOf past) state)
    (tallied_fresh limits)
    (fun past _ observation _ synchronised effect tallied => by
      rw [tallyOf_concat]
      exact Effect.tallied effect synchronised tallied)
    calls

/-! ## Reconciliation -/

/-- The equations between the counters of the five components. -/
structure Reconciled (exchange : ExchangeSimulator) (gateway : OrderGateway)
    (manager : PreTradeRiskManager) (pipeline : OrderPipeline capacity)
    (counters : LifecycleCounters) (errors : LifecycleErrors)
    (journal : ExecutionReportJournal) : Prop where
  enqueued :
    pipeline.ordersEnqueued = counters.ordersRegistered ∧
      counters.ordersRegistered = counters.ordersQueued
  drained : pipeline.ordersDrained = manager.ordersChecked
  rejectedByRisk :
    pipeline.ordersRejectedByRisk = manager.ordersRejected ∧
      manager.ordersRejected = counters.ordersRiskRejected
  sent :
    manager.ordersAccepted = counters.ordersSent ∧
      counters.ordersSent = gateway.ordersSent
  accepted :
    pipeline.ordersAccepted = gateway.ordersAccepted ∧
      gateway.ordersAccepted = counters.ordersExchangeAccepted
  rejectedByGateway :
    pipeline.ordersRejectedByGateway = gateway.ordersRejected ∧
      gateway.ordersRejected = counters.ordersExchangeRejected
  cancelled : gateway.cancelsAccepted = counters.cancelsAccepted
  amended : gateway.amendsAccepted = counters.amendsAccepted
  active :
    counters.cancelsAccepted ≤ counters.ordersExchangeAccepted ∧
      exchange.activeOrderCount =
        counters.ordersExchangeAccepted - counters.cancelsAccepted
  requests :
    counters.cancelRequests ≤ gateway.cancelsSent ∧
      counters.amendRequests ≤ gateway.amendsSent
  gatewayErrors :
    (gateway.cancelsSent - counters.cancelRequests) +
        (gateway.amendsSent - counters.amendRequests) =
      gateway.lifecycleTransitionErrors
  trackerErrors :
    gateway.lifecycleTransitionErrors = errors.transitionErrors
  pipelineErrors : pipeline.lifecycleTransitionErrors = 0
  duplicateErrors : errors.duplicateOrderErrors = 0
  rejectionReports :
    journal.rejectionReports =
      counters.ordersRiskRejected + counters.ordersExchangeRejected +
        counters.cancelsRejected + counters.amendsRejected
  orderReports :
    journal.orderReports =
      counters.ordersRegistered + counters.ordersQueued +
        counters.ordersRiskRejected + counters.ordersSent +
        counters.ordersExchangeAccepted + counters.ordersExchangeRejected
  actionReports :
    journal.actionReports =
      counters.cancelRequests + counters.cancelsAccepted +
        counters.cancelsRejected + counters.amendRequests +
        counters.amendsAccepted + counters.amendsRejected
  recorded :
    journal.reportsRecorded = journal.orderReports + journal.actionReports ∧
      journal.reports.length = journal.reportsRecorded

/-- Ledgers that count the same tally reconcile. -/
theorem Tallied.reconciled {tally : Tally}
    (tallied : Tallied true true tally system)
    {journal : ExecutionReportJournal}
    (attached :
      system.lifecycleTracker.executionReports = some journal) :
    Reconciled system.exchange system.gateway system.riskManager
      system.pipeline system.lifecycleTracker.counters
      system.lifecycleTracker.errors journal := by
  have pipeline := tallied.pipeline
  have risk := tallied.risk rfl
  have active := tallied.active
  have errors := tallied.transitionErrors
  have reports := tallied.journal
  rw [attached] at reports
  simp only [pipelineLedger, Tally.pipeline, PipelineLedger.mk.injEq]
    at pipeline
  simp only [riskLedger, Tally.risk, RiskLedger.mk.injEq] at risk
  simp only [Option.map_some, if_true, Option.some.injEq, journalLedger,
    Tally.journal, Tally.orderReports, Tally.actionReports,
    JournalLedger.mk.injEq] at reports
  rw [tallied.gateway, tallied.counters]
  constructor
  case drained => omega
  case pipelineErrors => omega
  case duplicateErrors => exact tallied.duplicateErrors
  case cancelled => rfl
  case amended => rfl
  case recorded => omega
  case active =>
    simp only [Tally.counters]
    constructor
    · rw [← active]
      exact Nat.le_add_left _ _
    · exact Nat.eq_sub_of_add_eq active
  case gatewayErrors =>
    simp only [Tally.gateway, Tally.counters]
    rw [Nat.add_sub_cancel_left, Nat.add_sub_cancel_left]
  all_goals
    simp only [Tally.gateway, Tally.counters, and_true]
    omega

/--
After every run of a fully wired system the independent ledgers of pipeline,
risk manager, gateway, exchange, tracker and journal reconcile.
-/
theorem run_reconciled (limits : RiskLimits) (calls : List Call) :
    let system : System capacity :=
      runFresh (tracked true) limits true calls
    ∃ journal,
      system.lifecycleTracker.executionReports = some journal ∧
        Reconciled system.exchange system.gateway system.riskManager
          system.pipeline system.lifecycleTracker.counters
          system.lifecycleTracker.errors journal := by
  intro system
  have tallied : Tallied true true _ system := runFresh_tallied limits calls
  obtain ⟨journal, attached, _⟩ :=
    Option.map_eq_some_iff.mp (tallied.journal.trans (if_pos rfl))
  exact ⟨journal, attached, tallied.reconciled attached⟩

end Llgw.Ledgers
