import Llgw.HistoryCounts
import Llgw.JournalTranscript
import Llgw.RiskDecisions

/-!
# Ledgers without an exchange

Where no order reaches an exchange, every counter of pipeline, gateway, risk
manager, tracker and journal is a count over the history.  The counts are given
here, together with what one more observation adds to them.
-/

namespace Llgw.ClosedLedgers

open Llgw.Foundation.LabelledTrace
open Llgw.Messages
open Llgw.Buffer
open Llgw.Risk
open Llgw.Reports
open Llgw.ReportText
open Llgw.Lifecycle
open Llgw.LifecycleMarks
open Llgw.Gateway
open Llgw.Pipeline
open Llgw.System
open Llgw.StepEffects
open Llgw.RiskGuarantees
open Llgw.JournalTranscript
open Llgw.HistoryCounts

variable {capacity : ℕ+}

/-! ## What the tracker reports -/

/-- The error of an action on an order that was never accepted. -/
def actionError (wiring : Wiring) (past : List Observation)
    (sequenceId : UInt64) : LifecycleError :=
  if known wiring past sequenceId then .invalidTransition
  else .unknownOrder

/-- The error that a call leaves in the tracker, if it is called at all. -/
def trackerError (wiring : Wiring) :
    List Observation × Observation → Option LifecycleError
  | (_, .enqueued _ accepted) =>
      if wiring.lifecycleTracker && accepted then some .none else none
  | (_, .drained _) => if wiring.lifecycleTracker then some .none else none
  | (past, .cancelled request _) =>
      if wiring.venue.lifecycleTracker then
        some (actionError wiring past request.sequenceId)
      else none
  | (past, .amended request _) =>
      if wiring.venue.lifecycleTracker then
        some (actionError wiring past request.sequenceId)
      else none

/-- What the tracker reported of the calls, oldest first. -/
def trackerErrors (wiring : Wiring) (history : List Observation) :
    List LifecycleError :=
  (withPast [] history).filterMap (trackerError wiring)

theorem trackerErrors_concat (wiring : Wiring) (history : List Observation)
    (seen : Observation) :
    trackerErrors wiring (history ++ [seen]) =
      trackerErrors wiring history ++
        (trackerError wiring (history, seen)).toList := by
  rw [trackerErrors, withPast_concat, List.filterMap_append]
  congr 1

/-- The counters of failed calls. -/
def errorsOf (reported : List LifecycleError) : LifecycleErrors where
  transitionErrors :=
    reported.count .unknownOrder + reported.count .invalidTransition
  unknownOrderErrors := reported.count .unknownOrder
  invalidTransitionErrors := reported.count .invalidTransition

/-! ## What the journal is told -/

/-- What is decided about an order when it is taken in or drained. -/
def closedDecision : Observation → Option (UInt64 × Decision)
  | .enqueued request accepted =>
      if accepted then some (request.sequenceId, .queued) else none
  | .drained call =>
      match riskReason call with
      | some reason => some (call.order.sequenceId, .riskRejected reason)
      | none => some (call.order.sequenceId, .rejected .invalidSymbol)
  | _ => none

/-- The calls that a tracker of the pipeline makes of its journal. -/
def journalCalls (wiring : Wiring) (history : List Observation) :
    List (UInt64 × JournalCall) :=
  if wiring.lifecycleTracker then
    transcript (history.filterMap closedDecision)
  else []

/-! ## The ledgers -/

/-- The gateway after a history. -/
def closedGateway (wiring : Wiring) (history : List Observation) :
    OrderGateway where
  ordersSent := if wiring.gateway then passedCount history else 0
  ordersAccepted := 0
  ordersRejected := if wiring.gateway then passedCount history else 0
  cancelsSent := cancelCount history
  cancelsAccepted := 0
  cancelsRejected := cancelCount history
  amendsSent := amendCount history
  amendsAccepted := 0
  amendsRejected := amendCount history
  lifecycleTransitionErrors :=
    if wiring.venue.lifecycleTracker then
      cancelCount history + amendCount history
    else 0

/-- The risk manager after a history. -/
def closedManager (wiring : Wiring) (limits : RiskLimits)
    (history : List Observation) : PreTradeRiskManager :=
  { PreTradeRiskManager.ofLimits limits with
    ordersChecked :=
      if wiring.riskManager then (drainCalls history).length else 0
    ordersAccepted :=
      if wiring.riskManager then passedCount history else 0
    ordersRejected := (riskRefusals history).length
    rejectedInvalidSymbol := (riskRefusals history).count .invalidSymbol
    rejectedInvalidPrice := (riskRefusals history).count .invalidPrice
    rejectedInvalidQuantity :=
      (riskRefusals history).count .invalidQuantity
    rejectedQuantityLimit := (riskRefusals history).count .quantityLimit
    rejectedNotionalLimit := (riskRefusals history).count .notionalLimit
    rejectedSymbolNotAllowed :=
      (riskRefusals history).count .symbolNotAllowed }

/-- The pipeline after a history, but for the layout of its buffer. -/
def closedPipeline (wiring : Wiring) (history : List Observation)
    (buffer : RingBuffer OrderRequest capacity) :
    OrderPipeline capacity where
  buffer := buffer
  ordersEnqueued := (takenIn history).length
  ordersDroppedOnEnqueue := countWithPast (droppedOffer wiring) history
  ordersRejectedByLifecycleOnEnqueue :=
    countWithPast (refusedOffer wiring) history
  ordersDrained := (drainCalls history).length
  ordersAccepted := 0
  ordersRejected := (drainCalls history).length
  ordersRejectedByRisk := (riskRefusals history).length
  ordersRejectedByGateway := passedCount history
  lifecycleTransitionErrors := 0
  lastRiskRejectReason := (riskRefusals history).getLast?.getD .none

/-- The counters of the tracker after a history. -/
def closedCounters (wiring : Wiring) (history : List Observation) :
    LifecycleCounters :=
  if wiring.lifecycleTracker then
    { ordersRegistered := (takenIn history).length
      ordersQueued := (takenIn history).length
      ordersRiskRejected := (riskRefusals history).length
      ordersSent := passedCount history
      ordersExchangeRejected := passedCount history }
  else {}

/-- The tracker after a history, but for its records. -/
structure TrackerAccounts (wiring : Wiring) (journal : Bool)
    (history : List Observation) (tracker : OrderLifecycleTracker) :
    Prop where
  counters : tracker.counters = closedCounters wiring history
  errors : tracker.errors = errorsOf (trackerErrors wiring history)
  lastError :
    tracker.lastError =
      (trackerErrors wiring history).getLast?.getD .none
  journal :
    tracker.executionReports =
      if journal then some (recordAll {} (journalCalls wiring history))
      else none

/-! ## An order is offered -/

section Offers

variable {wiring : Wiring} {limits : RiskLimits}
  {history : List Observation} {request : OrderRequest}
  (buffer other : RingBuffer OrderRequest capacity)

theorem closedGateway_enqueued (accepted : Bool) :
    closedGateway wiring (history ++ [.enqueued request accepted]) =
      closedGateway wiring history := by
  simp [closedGateway, passedCount_concat, cancelCount_concat,
    amendCount_concat]

theorem closedManager_enqueued (accepted : Bool) :
    closedManager wiring limits
        (history ++ [.enqueued request accepted]) =
      closedManager wiring limits history := by
  simp [closedManager, passedCount_concat, drainCalls_concat,
    riskRefusals_concat]

theorem closedPipeline_refusedOffer
    (found : known wiring history request.sequenceId = true) :
    closedPipeline wiring (history ++ [.enqueued request false]) buffer =
      { closedPipeline wiring history buffer with
        ordersRejectedByLifecycleOnEnqueue :=
          countWithPast (refusedOffer wiring) history +
            1 } := by
  simp [closedPipeline, takenIn_concat, drainCalls_concat,
    riskRefusals_concat, passedCount_concat, countWithPast_concat,
    refusedOffer, droppedOffer, found]

theorem closedPipeline_droppedOffer
    (unknown : known wiring history request.sequenceId = false) :
    closedPipeline wiring (history ++ [.enqueued request false]) buffer =
      { closedPipeline wiring history buffer with
        ordersDroppedOnEnqueue :=
          countWithPast (droppedOffer wiring) history + 1 } := by
  simp [closedPipeline, takenIn_concat, drainCalls_concat,
    riskRefusals_concat, passedCount_concat, countWithPast_concat,
    refusedOffer, droppedOffer, unknown]

theorem closedPipeline_joined :
    closedPipeline wiring (history ++ [.enqueued request true]) buffer =
      { closedPipeline wiring history other with
        buffer := buffer
        ordersEnqueued := (takenIn history).length + 1 } := by
  simp [closedPipeline, takenIn_concat, drainCalls_concat,
    riskRefusals_concat, passedCount_concat, countWithPast_concat,
    refusedOffer, droppedOffer]

end Offers

/-! ## An order is drained -/

section Drained

variable {wiring : Wiring} {limits : RiskLimits}
  {history : List Observation} {call : DrainCall}
  (buffer other : RingBuffer OrderRequest capacity)

section Refused

variable {reason : RiskRejectReason}
  (refused : riskReason call = some reason)
include refused

theorem closedGateway_refused :
    closedGateway wiring (history ++ [.drained call]) =
      closedGateway wiring history := by
  simp [closedGateway, passedCount_concat, cancelCount_concat,
    amendCount_concat, refused]

theorem closedManager_refused (checks : wiring.riskManager = true) :
    closedManager wiring limits (history ++ [.drained call]) =
      (closedManager wiring limits history).afterReject reason := by
  have passed : passedCount [.drained call] = 0 := by simp [refused]
  have reasons : riskRefusals [.drained call] = [reason] := by
    simp [refused]
  simp only [closedManager, passedCount_concat, drainCalls_concat,
    riskRefusals_concat, drainCalls_drained, passed, reasons, checks,
    if_true, List.length_append, List.length_singleton, List.count_append,
    List.count_singleton, Nat.add_zero]
  cases reason <;> rfl

theorem closedPipeline_refused :
    closedPipeline wiring (history ++ [.drained call]) buffer =
      countRiskReject reason
        { closedPipeline wiring history other with
          buffer := buffer
          ordersDrained := (drainCalls history).length + 1 } := by
  simp [closedPipeline, countRiskReject, takenIn_concat, drainCalls_concat,
    riskRefusals_concat, passedCount_concat, countWithPast_concat,
    refusedOffer, droppedOffer, refused]

end Refused

section Passed

variable (passes : riskReason call = none)
include passes

theorem closedGateway_passed {response : OrderResponse}
    (rejected : response.accepted = false) :
    closedGateway wiring (history ++ [.drained call]) =
      if wiring.gateway then
        countSubmission response (closedGateway wiring history)
      else closedGateway wiring history := by
  cases attached : wiring.gateway <;>
    simp [closedGateway, countSubmission, passedCount_concat,
      cancelCount_concat, amendCount_concat, passes, attached, rejected]

theorem closedManager_passed :
    closedManager wiring limits (history ++ [.drained call]) =
      passedManager wiring (closedManager wiring limits history) := by
  cases checks : wiring.riskManager <;>
    simp [closedManager, passedManager, PreTradeRiskManager.afterAccept,
      passedCount_concat, drainCalls_concat, riskRefusals_concat, passes,
      checks]

theorem closedPipeline_passed :
    closedPipeline wiring (history ++ [.drained call]) buffer =
      countGatewayReject
        { closedPipeline wiring history other with
          buffer := buffer
          ordersDrained := (drainCalls history).length + 1 } := by
  simp [closedPipeline, countGatewayReject, takenIn_concat,
    drainCalls_concat, riskRefusals_concat, passedCount_concat,
    countWithPast_concat, refusedOffer, droppedOffer, passes]

end Passed

end Drained

/-! ## An action -/

/-- The observation of a cancel or of an amendment. -/
def isAction (seen : Observation) : Bool := isCancel seen || isAmend seen

/-- An observation in which no order is taken in or drained. -/
structure Unseen (seen : Observation) : Prop where
  taken : takenIn [seen] = []
  drained : drainCalls [seen] = []
  reasons : riskRefusals [seen] = []
  passed : passedCount [seen] = 0
  undecided : closedDecision seen = none

section Actions

variable {wiring : Wiring} {limits : RiskLimits}
  {history : List Observation} {seen : Observation}
  (action : isAction seen = true)
include action

/-- An action is neither an offer nor an iteration of `Drain`. -/
theorem unseen_of_action : Unseen seen := by
  cases seen with
  | enqueued | drained => contradiction
  | cancelled | amended => exact ⟨rfl, rfl, rfl, rfl, rfl⟩

theorem closedManager_action :
    closedManager wiring limits (history ++ [seen]) =
      closedManager wiring limits history := by
  have unseen := unseen_of_action action
  simp only [closedManager, passedCount_concat, drainCalls_concat,
    riskRefusals_concat, unseen.reasons, unseen.drained, unseen.passed,
    List.append_nil, Nat.add_zero]

theorem closedPipeline_action
    (buffer : RingBuffer OrderRequest capacity) :
    closedPipeline wiring (history ++ [seen]) buffer =
      closedPipeline wiring history buffer := by
  have unseen := unseen_of_action action
  cases seen with
  | enqueued | drained => contradiction
  | cancelled | amended =>
      simp [closedPipeline, takenIn_concat, drainCalls_concat,
        riskRefusals_concat, passedCount_concat, countWithPast_concat,
        refusedOffer, droppedOffer, unseen.taken, unseen.reasons,
        unseen.drained, unseen.passed]

end Actions

/-! ## The tracker -/

namespace TrackerAccounts

variable {wiring : Wiring} {journal : Bool} {history : List Observation}
  {tracker next : OrderLifecycleTracker} {seen : Observation}

theorem empty (tracker : OrderLifecycleTracker)
    (unused :
      tracker = { executionReports := if journal then some {} else none }) :
    TrackerAccounts wiring journal [] tracker := by
  subst unused
  constructor
  · cases attached : wiring.lifecycleTracker <;>
      simp only [closedCounters, attached] <;>
      rfl
  · rfl
  · rfl
  · simp [journalCalls, transcript, recordAll]

/-- What a call reports and writes is added to what there was. -/
theorem concat (accounts : TrackerAccounts wiring journal history tracker)
    (counters : next.counters = closedCounters wiring (history ++ [seen]))
    (errors :
      next.errors =
        errorsOf
          (trackerErrors wiring history ++
            (trackerError wiring (history, seen)).toList))
    (lastError :
      next.lastError =
        (trackerError wiring (history, seen)).getD tracker.lastError)
    (written :
      next.executionReports =
        appended tracker
          (if wiring.lifecycleTracker then
            transcript (closedDecision seen).toList
          else [])) :
    TrackerAccounts wiring journal (history ++ [seen]) next where
  counters := counters
  errors := by rw [errors, trackerErrors_concat]
  lastError := by
    rw [lastError, trackerErrors_concat, accounts.lastError]
    cases trackerError wiring (history, seen) <;> simp
  journal := by
    have calls :
        journalCalls wiring (history ++ [seen]) =
          journalCalls wiring history ++
            if wiring.lifecycleTracker then
              transcript (closedDecision seen).toList
            else [] := by
      have last :
          [seen].filterMap closedDecision =
            (closedDecision seen).toList := by
        cases decided : closedDecision seen <;> simp [decided]
      unfold journalCalls
      split_ifs
      · rw [List.filterMap_append, transcript_append, last]
      · rfl
    rw [written, appended, accounts.journal, calls]
    cases journal with
    | false => rfl
    | true => exact congrArg some List.foldl_append.symm

section Calls

variable (accounts : TrackerAccounts wiring journal history tracker)
include accounts

/-- An offer that is not taken in does not reach the tracker. -/
theorem unoffered (request : OrderRequest) :
    TrackerAccounts wiring journal
      (history ++ [.enqueued request false]) tracker := by
  apply accounts.concat
  · simp [accounts.counters, closedCounters, takenIn_concat,
      riskRefusals_concat, passedCount_concat]
  · simp [accounts.errors, trackerError]
  · simp [trackerError]
  · simp [closedDecision, transcript, appended_nil]

/-- An offer that is taken in is registered and queued. -/
theorem offered (request : OrderRequest) :
    TrackerAccounts wiring journal
      (history ++ [.enqueued request true])
      (if wiring.lifecycleTracker then
        enqueued tracker request.sequenceId
      else tracker) := by
  have counters := accounts.counters
  cases attached : wiring.lifecycleTracker with
  | false =>
      apply accounts.concat
      · simpa [closedCounters, attached] using counters
      · simp [accounts.errors, trackerError, attached]
      · simp [trackerError, attached]
      · simp [appended_nil, attached]
  | true =>
      simp only [closedCounters, attached, if_true] at counters
      apply accounts.concat
      · simp [enqueued, marked, registered, Mark.count, counters,
          closedCounters, attached, takenIn_concat, riskRefusals_concat,
          passedCount_concat]
      · simp [enqueued, marked, registered, accounts.errors, trackerError,
          attached, errorsOf]
      · simp [enqueued, marked, trackerError, attached]
      · simp only [if_true, attached]
        exact enqueued_executionReports _ _

/-- An order that is refused by the risk manager is marked once. -/
theorem refused {call : DrainCall} {reason : RiskRejectReason}
    (refused : riskReason call = some reason)
    (record : OrderLifecycleRecord) :
    TrackerAccounts wiring journal (history ++ [.drained call])
      (markedIf wiring.lifecycleTracker tracker call.order.sequenceId
        record (.riskRejected reason)) := by
  have counters := accounts.counters
  cases attached : wiring.lifecycleTracker with
  | false =>
      apply accounts.concat
      · simpa [closedCounters, attached, markedIf] using counters
      · simp [markedIf, accounts.errors, trackerError, attached]
      · simp [markedIf, trackerError, attached]
      · simp [markedIf, appended_nil, attached]
  | true =>
      simp only [closedCounters, attached, if_true] at counters
      apply accounts.concat
      · simp [markedIf, marked, Mark.count, counters, closedCounters,
          attached, takenIn_concat, riskRefusals_concat,
          passedCount_concat, refused]
      · simp [markedIf, marked, accounts.errors, trackerError, attached,
          errorsOf]
      · simp [markedIf, marked, trackerError, attached]
      · simp only [markedIf, if_true, attached, closedDecision, refused]
        exact marked_executionReports _ _ _ rfl

/-- An order that is turned away is marked sent and rejected. -/
theorem passed {call : DrainCall} (passes : riskReason call = none)
    (record : OrderLifecycleRecord) :
    TrackerAccounts wiring journal (history ++ [.drained call])
      (if wiring.lifecycleTracker then
        completed tracker call.order.sequenceId record .sent
          (.exchangeRejected .invalidSymbol)
      else tracker) := by
  have counters := accounts.counters
  cases attached : wiring.lifecycleTracker with
  | false =>
      apply accounts.concat
      · simpa [closedCounters, attached] using counters
      · simp [accounts.errors, trackerError, attached]
      · simp [trackerError, attached]
      · simp [appended_nil, attached]
  | true =>
      simp only [closedCounters, attached, if_true] at counters
      apply accounts.concat
      · simp [completed, marked, Mark.count, counters, closedCounters,
          attached, takenIn_concat, riskRefusals_concat,
          passedCount_concat, passes]
      · simp [completed, marked, accounts.errors, trackerError, attached,
          errorsOf]
      · simp [completed, marked, trackerError, attached]
      · simp only [if_true, attached, closedDecision, passes]
        exact completed_executionReports _ _ _ rfl rfl

/-- An action fails in the tracker of the gateway, if there is one. -/
theorem action (action : isAction seen = true) {sequenceId : UInt64}
    (reported :
      trackerError wiring (history, seen) =
        if wiring.venue.lifecycleTracker then
          some (actionError wiring history sequenceId)
        else none) :
    TrackerAccounts wiring journal (history ++ [seen])
      (if wiring.venue.lifecycleTracker then
        failed tracker (actionError wiring history sequenceId)
      else tracker) := by
  have unseen := unseen_of_action action
  have counters :
      tracker.counters = closedCounters wiring (history ++ [seen]) := by
    simp [accounts.counters, closedCounters, takenIn_concat,
      riskRefusals_concat, passedCount_concat, unseen.taken,
      unseen.reasons, unseen.passed]
  have unwritten :
      tracker.executionReports =
        appended tracker
          (if wiring.lifecycleTracker then
            transcript (closedDecision seen).toList
          else []) := by
    simp [unseen.undecided, transcript, appended_nil]
  cases attached : wiring.venue.lifecycleTracker with
  | false =>
      rw [attached, if_neg Bool.false_ne_true] at reported
      rw [if_neg Bool.false_ne_true]
      apply accounts.concat counters
      · simp [accounts.errors, reported]
      · simp [reported]
      · exact unwritten
  | true =>
      rw [attached, if_pos rfl] at reported
      rw [if_pos rfl]
      apply accounts.concat
      · exact counters
      · rw [reported]
        unfold actionError
        split_ifs
        · simp [failed, OrderLifecycleTracker.fail, accounts.errors,
            errorsOf, Nat.add_assoc]
        · simp [failed, OrderLifecycleTracker.fail, accounts.errors,
            errorsOf, Nat.add_right_comm]
      · rw [reported]
        rfl
      · exact unwritten

end Calls

end TrackerAccounts

end Llgw.ClosedLedgers
