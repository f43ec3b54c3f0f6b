import Llgw.Gateway
import Llgw.LifecycleUpdates

/-!
# The effect of a cancellation or an amendment

`SendCancel` and `SendAmend` look at two entries only, the active order and
the record of their target.  From these `actionEffect` computes the response,
the entries written and everything counted and reported.  `venueView` is what
a venue shows apart from `last_error` and the global order of the reports.
-/

namespace Llgw.ActionEffects

open Llgw.Foundation.KeyedStore
open Llgw.Messages
open Llgw.Reports
open Llgw.Exchange
open Llgw.Lifecycle
open Llgw.LifecycleMarks
open Llgw.LifecycleUpdates
open Llgw.Gateway

/-! ## Views -/

/-- A journal up to the interleaving of the reports on different orders. -/
@[ext]
structure JournalView where
  bodies : UInt64 → List ReportBody
  nextEventIndex : UInt64
  reportsRecorded : Nat
  rejectionReports : Nat
  orderReports : Nat
  actionReports : Nat

def journalView (journal : ExecutionReportJournal) : JournalView where
  bodies := journalBodies journal
  nextEventIndex := journal.nextEventIndex
  reportsRecorded := journal.reportsRecorded
  rejectionReports := journal.rejectionReports
  orderReports := journal.orderReports
  actionReports := journal.actionReports

/-- `ExecutionReportJournal::Record`, as a view shows it. -/
def JournalView.record (sequenceId : UInt64) (view : JournalView)
    (body : ReportBody) : JournalView where
  bodies :=
    Function.update view.bodies sequenceId
      (view.bodies sequenceId ++ [body])
  nextEventIndex := view.nextEventIndex + 1
  reportsRecorded := view.reportsRecorded + 1
  rejectionReports :=
    if body.rejectSource ≠ .none then view.rejectionReports + 1
    else view.rejectionReports
  orderReports :=
    if isActionReport body.type then view.orderReports
    else view.orderReports + 1
  actionReports :=
    if isActionReport body.type then view.actionReports + 1
    else view.actionReports

/-- Several reports on one order. -/
def JournalView.recordAll (sequenceId : UInt64) (bodies : List ReportBody)
    (view : JournalView) : JournalView :=
  bodies.foldl (JournalView.record sequenceId) view

theorem journalView_record (journal : ExecutionReportJournal)
    (sequenceId : UInt64) (body : ReportBody) :
    journalView
        (journal.record sequenceId body.type body.rejectSource
          body.rejectReason) =
      (journalView journal).record sequenceId body := by
  apply JournalView.ext
  case bodies => exact journalBodies_record journal sequenceId body
  all_goals rfl

/-- The report of a successful mark, as a view shows it. -/
theorem journalView_report (journal : ExecutionReportJournal)
    (sequenceId : UInt64) (mark : Mark) :
    journalView (mark.report sequenceId journal) =
      (journalView journal).record sequenceId (markBody mark) :=
  journalView_record journal sequenceId (markBody mark)

/-- Reports on different orders commute in a view. -/
theorem JournalView.record_comm {left right : UInt64}
    (different : left ≠ right) (view : JournalView)
    (first second : ReportBody) :
    (view.record left first).record right second =
      (view.record right second).record left first := by
  ext1
  case bodies =>
    simp only [JournalView.record, Function.update_of_ne different,
      Function.update_of_ne different.symm]
    exact Function.update_comm different _ _ _
  all_goals
    simp only [JournalView.record]
    try split_ifs <;> rfl

theorem JournalView.recordAll_comm {left right : UInt64}
    (different : left ≠ right) (first second : List ReportBody)
    (view : JournalView) :
    (view.recordAll left first).recordAll right second =
      (view.recordAll right second).recordAll left first := by
  have once (body : ReportBody) (view : JournalView) :
      (view.record left body).recordAll right second =
        (view.recordAll right second).record left body := by
    induction second generalizing view with
    | nil => rfl
    | cons next rest induction =>
        show ((view.record left body).record right next).recordAll
            right rest = _
        rw [JournalView.record_comm different]
        exact induction (view.record right next)
  induction first generalizing view with
  | nil => rfl
  | cons body rest induction =>
      show ((view.record left body).recordAll left rest).recordAll
          right second = _
      rw [induction, once]
      rfl

/-- What a venue shows, but for `last_error` and the order of the reports. -/
@[ext]
structure VenueView where
  gateway : OrderGateway
  exchange : ExchangeSimulator
  records : Store UInt64 OrderLifecycleRecord
  counters : LifecycleCounters
  errors : LifecycleErrors
  journal : Option JournalView

def venueView (venue : Venue) : VenueView where
  gateway := venue.gateway
  exchange := venue.exchange
  records := venue.lifecycleTracker.records
  counters := venue.lifecycleTracker.counters
  errors := venue.lifecycleTracker.errors
  journal := venue.lifecycleTracker.executionReports.map journalView

/-! ## Effects -/

/-- Everything an action on one order does to a venue. -/
structure ActionEffect (Response : Type) where
  response : Response
  countGateway : OrderGateway → OrderGateway
  order : Write OrderRequest
  record : Write OrderLifecycleRecord
  count : LifecycleCounters → LifecycleCounters
  countErrors : LifecycleErrors → LifecycleErrors
  bodies : List ReportBody

/-- Carry out an effect on the order with this id. -/
def ActionEffect.applyTo {Response : Type} (sequenceId : UInt64)
    (effect : ActionEffect Response) (view : VenueView) : VenueView where
  gateway := effect.countGateway view.gateway
  exchange :=
    { view.exchange with
      activeOrders :=
        effect.order.applyTo sequenceId view.exchange.activeOrders }
  records := effect.record.applyTo sequenceId view.records
  counters := effect.count view.counters
  errors := effect.countErrors view.errors
  journal := view.journal.map (JournalView.recordAll sequenceId effect.bodies)

/-- One more failure of a class. -/
def countFailure (error : LifecycleError) (errors : LifecycleErrors) :
    LifecycleErrors :=
  (failed { errors := errors } error).errors

theorem failed_errors (tracker : OrderLifecycleTracker)
    (error : LifecycleError) :
    (failed tracker error).errors = countFailure error tracker.errors := by
  cases error <;> rfl

section Paths

variable {Response : Type} (path : ActionPath Response)

/-- The pending transition is refused: nothing but counters change. -/
def refusedEffect (error : LifecycleError) : ActionEffect Response where
  response := path.refusal
  countGateway gateway :=
    path.countRejected (countError (path.countSent gateway))
  order := .keep
  record := .keep
  count := id
  countErrors := countFailure error
  bodies := []

/-- The exchange answers, and there is no tracker. -/
def untrackedEffect (answer : Response × Write OrderRequest) :
    ActionEffect Response where
  response := answer.1
  countGateway := path.countResponse answer.1
  order := answer.2
  record := .keep
  count := id
  countErrors := id
  bodies := []

/-- The two marks of an order whose action is answered. -/
def answeredUpdate (record : OrderLifecycleRecord) (response : Response) :
    Update :=
  (markUpdate record path.pendingMark).andThen
    (markUpdate (path.pendingMark.moved record)
      (path.completingMark response))

/-- The exchange answers between the two transitions of the record. -/
def trackedEffect (record : OrderLifecycleRecord)
    (answer : Response × Write OrderRequest) : ActionEffect Response :=
  { untrackedEffect path answer with
    record := .put (answeredUpdate path record answer.1).record
    count := (answeredUpdate path record answer.1).count
    bodies := (answeredUpdate path record answer.1).bodies }

/-- The effect of an action, from the record of its order and the answer. -/
def actionEffect (attached : Bool)
    (answer : Response × Write OrderRequest) :
    Option OrderLifecycleRecord → ActionEffect Response
  | none =>
      if attached then refusedEffect path .unknownOrder
      else untrackedEffect path answer
  | some record =>
      if attached then
        if record.state = path.pendingMark.source then
          trackedEffect path record answer
        else refusedEffect path .invalidTransition
      else untrackedEffect path answer

/-- The exchange call of an action looks at its own order and writes it. -/
def Local
    (decision : Option OrderRequest → Response × Write OrderRequest) :
    Prop :=
  ∀ exchange : ExchangeSimulator,
    path.execute exchange =
      ((decision (exchange.activeOrders.lookup path.sequenceId)).1,
        { exchange with
          activeOrders :=
            (decision
              (exchange.activeOrders.lookup path.sequenceId)).2.applyTo
              path.sequenceId exchange.activeOrders })

/-- The answer to an action: the decision of the exchange, if there is one. -/
def answered (connected : Bool)
    (decision : Option OrderRequest → Response × Write OrderRequest)
    (active : Option OrderRequest) : Response × Write OrderRequest :=
  if connected then decision active else (path.noExchange, .keep)

end Paths

/-! ## The decisions of the exchange -/

/-- What `CancelOrder` answers and does, given the active order. -/
def cancelDecision (request : CancelRequest) :
    Option OrderRequest → CancelResponse × Write OrderRequest
  | none =>
      ({ sequenceId := request.sequenceId
         accepted := false
         rejectReason := .unknownOrder }, .keep)
  | some _ =>
      ({ sequenceId := request.sequenceId
         accepted := true
         rejectReason := .none }, .drop)

/-- What `AmendOrder` answers and does, given the active order. -/
def amendDecision (request : AmendRequest) :
    Option OrderRequest → AmendResponse × Write OrderRequest
  | none =>
      ({ sequenceId := request.sequenceId
         accepted := false
         rejectReason := .unknownOrder }, .keep)
  | some order =>
      if !request.newPrice.isFinite || request.newPrice ≤ 0.0 then
        ({ sequenceId := request.sequenceId
           accepted := false
           rejectReason := .invalidPrice }, .keep)
      else if request.newQuantity == 0 then
        ({ sequenceId := request.sequenceId
           accepted := false
           rejectReason := .invalidQuantity }, .keep)
      else
        ({ sequenceId := request.sequenceId
           accepted := true
           rejectReason := .none }, .put (amendedOrder order request))

theorem cancelPath_local (request : CancelRequest) :
    Local (cancelPath request) (cancelDecision request) := by
  intro exchange
  show exchange.cancelOrder request = _
  simp only [ExchangeSimulator.cancelOrder, cancelPath]
  cases exchange.activeOrders.lookup request.sequenceId <;> rfl

theorem amendPath_local (request : AmendRequest) :
    Local (amendPath request) (amendDecision request) := by
  intro exchange
  show exchange.amendOrder request = _
  simp only [ExchangeSimulator.amendOrder, amendPath]
  cases exchange.activeOrders.lookup request.sequenceId with
  | none => rfl
  | some order =>
      simp only [amendDecision]
      split_ifs <;> rfl

/-! ## Actions have their effects -/

section Actions

variable {Response : Type} {wiring : GatewayWiring} {venue : Venue}
  {path : ActionPath Response}
  {decision : Option OrderRequest → Response × Write OrderRequest}

/-- The effect of an action in a venue. -/
def effectIn (wiring : GatewayWiring) (path : ActionPath Response)
    (decision : Option OrderRequest → Response × Write OrderRequest)
    (view : VenueView) : ActionEffect Response :=
  actionEffect path wiring.lifecycleTracker
    (answered path wiring.exchange decision
      (view.exchange.activeOrders.lookup path.sequenceId))
    (view.records.lookup path.sequenceId)

theorem executed_eq (isLocal : Local path decision)
    (exchange : ExchangeSimulator) :
    executed wiring path exchange =
      ((answered path wiring.exchange decision
          (exchange.activeOrders.lookup path.sequenceId)).1,
        { exchange with
          activeOrders :=
            (answered path wiring.exchange decision
              (exchange.activeOrders.lookup path.sequenceId)).2.applyTo
              path.sequenceId exchange.activeOrders }) := by
  unfold executed answered
  split_ifs
  · exact isLocal exchange
  · rfl

/-- A venue after an action has the effect of it, as far as one sees. -/
structure HasEffect (venue : Venue) (sequenceId : UInt64)
    (effect : ActionEffect Response) (result : Response × Venue) : Prop where
  response : result.1 = effect.response
  view : venueView result.2 = effect.applyTo sequenceId (venueView venue)

theorem refused_hasEffect {error : LifecycleError}
    (attached : wiring.lifecycleTracker = true)
    (refused :
      applyMark venue.lifecycleTracker path.sequenceId path.pendingMark =
        (false, failed venue.lifecycleTracker error)) :
    HasEffect venue path.sequenceId (refusedEffect path error)
      (sendAction wiring venue path) := by
  rw [sendAction_of_refused attached refused]
  constructor
  · rfl
  · ext1
    case errors => exact failed_errors venue.lifecycleTracker error
    case journal => exact Option.map_id'.symm
    all_goals rfl

theorem untracked_hasEffect (isLocal : Local path decision)
    (detached : wiring.lifecycleTracker = false) :
    HasEffect venue path.sequenceId
      (untrackedEffect path
        (answered path wiring.exchange decision
          (venue.exchange.activeOrders.lookup path.sequenceId)))
      (sendAction wiring venue path) := by
  rw [sendAction_of_untracked detached, executed_eq isLocal]
  constructor
  · rfl
  · ext1
    case journal => exact Option.map_id'.symm
    all_goals rfl

theorem tracked_hasEffect (cyclic : path.Cyclic)
    (isLocal : Local path decision)
    (attached : wiring.lifecycleTracker = true)
    {record : OrderLifecycleRecord}
    (legal :
      Legal venue.lifecycleTracker path.sequenceId record
        path.pendingMark) :
    HasEffect venue path.sequenceId
      (trackedEffect path record
        (answered path wiring.exchange decision
          (venue.exchange.activeOrders.lookup path.sequenceId)))
      (sendAction wiring venue path) := by
  rw [sendAction_of_legal cyclic attached legal, executed_eq isLocal]
  constructor
  · rfl
  · ext1
    case records => exact Finmap.insert_insert _
    case journal =>
      simp only [venueView, ActionEffect.applyTo, completed, marked,
        Option.map_map]
      congr 1
      ext1 journal
      simp only [Function.comp_apply, journalView_report]
      rfl
    all_goals rfl

/-- The step lemma: an action has the effect computed from its two entries. -/
theorem sendAction_hasEffect (cyclic : path.Cyclic)
    (isLocal : Local path decision) :
    HasEffect venue path.sequenceId
      (effectIn wiring path decision (venueView venue))
      (sendAction wiring venue path) := by
  unfold effectIn
  cases attached : wiring.lifecycleTracker with
  | false =>
      cases found : (venueView venue).records.lookup path.sequenceId <;>
        exact untracked_hasEffect isLocal attached
  | true =>
      cases found : (venueView venue).records.lookup path.sequenceId with
      | none =>
          exact
            refused_hasEffect attached
              (applyMark_of_unknown cyclic.pendingReason found)
      | some record =>
          simp only [actionEffect, if_true]
          split_ifs with state
          · exact
              tracked_hasEffect cyclic isLocal attached
                ⟨found, state, cyclic.pendingReason⟩
          · exact
              refused_hasEffect attached
                (applyMark_of_wrong_state found state)

end Actions

end Llgw.ActionEffects
