import Llgw.Foundation.Projection
import Llgw.LifecycleUpdates
import Llgw.RiskGuarantees

/-!
# One order among many

A view collects what buffer, tracker, journal and exchange show of one
sequence id.  `orderStep` is an abstract order that is alone in the world: it
is offered, drained, cancelled and amended.  A tracked system shows of every
id exactly what the abstract order of this id shows, so orders meet nowhere
but in the capacity of the buffer.
-/

namespace Llgw.OrderViews

open Llgw.Foundation.TransitionRun
open Llgw.Foundation.KeyedStore
open Llgw.Foundation.Projection
open Llgw.Messages
open Llgw.Buffer
open Llgw.Risk
open Llgw.Exchange
open Llgw.Lifecycle
open Llgw.LifecycleMarks
open Llgw.LifecycleUpdates
open Llgw.Gateway
open Llgw.Pipeline
open Llgw.System
open Llgw.OrderAgreement
open Llgw.StepEffects
open Llgw.Effects
open Llgw.Synchronisation
open Llgw.RiskGuarantees (firstFailure_of_effect)

variable {capacity : ℕ+} {riskManager : Bool}

/-! ## The abstract order -/

/-- What a system shows of one sequence id. -/
structure OrderView where
  waiting : Option OrderRequest := none
  record : Option OrderLifecycleRecord := none
  active : Option OrderRequest := none
  seen : Bool := false
  reports : Option (List ReportBody) := none
deriving DecidableEq

/-- What happens to an order; an offer may find no room in the buffer. -/
inductive OrderCall where
  | offer (request : OrderRequest) (room : Bool)
  | drain
  | cancel (request : CancelRequest)
  | amend (request : AmendRequest)
deriving DecidableEq

inductive OrderReply where
  | offered (accepted : Bool)
  | drained (outcome : Option DrainOutcome)
  | cancelled (response : CancelResponse)
  | amended (response : AmendResponse)
deriving DecidableEq

namespace OrderView

/-- A view after successful lifecycle calls for its order. -/
def updated (view : OrderView) (update : Update) : OrderView :=
  { view with
    record := some update.record
    reports := view.reports.map (· ++ update.bodies) }

/-- The record of an order that the exchange has accepted. -/
def accepted (view : OrderView) : Option OrderLifecycleRecord :=
  view.record.filter fun record => record.state = .exchangeAccepted

end OrderView

/-- The lifecycle calls of an order that enters the queue. -/
def enqueuedUpdate (sequenceId : UInt64) : Update :=
  (registerUpdate sequenceId).andThen
    (markUpdate { sequenceId := sequenceId } .queued)

/-- Two lifecycle calls in a row. -/
def completedUpdate (record : OrderLifecycleRecord)
    (first second : Mark) : Update :=
  (markUpdate record first).andThen
    (markUpdate (first.moved record) second)

/-- The answer of an exchange that has seen no order before. -/
def verdict (order : OrderRequest) : OrderResponse :=
  (ExchangeSimulator.submitOrder {} order).1

/-- The answer of an exchange at which no other order is active. -/
def amendVerdict (order : OrderRequest) (request : AmendRequest) :
    AmendResponse :=
  (ExchangeSimulator.amendOrder
    { activeOrders := Finmap.singleton request.sequenceId order }
    request).1

/-- The order at the head of the queue meets the risk check. -/
def settle (risk : OrderRequest → Option RiskRejectReason)
    (order : OrderRequest) (record : OrderLifecycleRecord)
    (view : OrderView) : DrainOutcome × OrderView :=
  match risk order with
  | some reason =>
      (.riskRejected reason,
        { view.updated (markUpdate record (.riskRejected reason)) with
          waiting := none })
  | none =>
      let response := verdict order
      (.dispatched true (some .sent) response,
        { view.updated
            (completedUpdate record .sent (responseMark response)) with
          waiting := none
          active := if response.accepted then some order else view.active
          seen := response.accepted || view.seen })

/-- One call on an order that is alone. -/
def orderStep (risk : OrderRequest → Option RiskRejectReason)
    (view : OrderView) : OrderCall → OrderReply × OrderView
  | .offer request room =>
      if view.record.isNone && room then
        (.offered true,
          { view.updated (enqueuedUpdate request.sequenceId) with
            waiting := some request })
      else (.offered false, view)
  | .drain =>
      match view.waiting, view.record with
      | some order, some record =>
          let settled := settle risk order record view
          (.drained (some settled.1), settled.2)
      | _, _ => (.drained none, view)
  | .cancel request =>
      match view.accepted with
      | some record =>
          (.cancelled
              { sequenceId := request.sequenceId, accepted := true,
                rejectReason := .none },
            { view.updated
                (completedUpdate record .cancelPending .cancelled) with
              active := none })
      | none => (.cancelled (cancelPath request).refusal, view)
  | .amend request =>
      match view.accepted, view.active with
      | some record, some order =>
          let response := amendVerdict order request
          (.amended response,
            { view.updated
                (completedUpdate record .amendPending
                  ((amendPath request).completingMark response)) with
              active :=
                if response.accepted then
                  some (amendedOrder order request)
                else some order })
      | _, _ => (.amended (amendPath request).refusal, view)

/-! ## The view of an id -/

/-- The order of an id in a queue. -/
def waitingFor (queue : List OrderRequest) (sequenceId : UInt64) :
    Option OrderRequest :=
  queue.find? fun order => order.sequenceId == sequenceId

/-- What buffer, tracker, journal and exchange show of an id. -/
def view (system : System capacity) (sequenceId : UInt64) : OrderView where
  waiting := waitingFor system.pipeline.buffer.contents sequenceId
  record := system.lifecycleTracker.find sequenceId
  active := system.exchange.findActiveOrder sequenceId
  seen := decide (sequenceId ∈ system.exchange.seenSequenceIds)
  reports := bodiesFor system.lifecycleTracker sequenceId

/-- The risk decisions of a pipeline with or without a risk manager. -/
def decisions (riskManager : Bool) (limits : RiskLimits)
    (order : OrderRequest) : Option RiskRejectReason :=
  if riskManager then
    (PreTradeRiskManager.ofLimits limits).firstFailure order
  else none

/-- The view of an id before any call. -/
def newView (journal : Bool) : OrderView where
  reports := if journal then some [] else none

theorem view_fresh (limits : RiskLimits) (journal : Bool)
    (sequenceId : UInt64) :
    view (fresh limits journal : System capacity) sequenceId =
      newView journal := by
  cases journal <;> rfl

/-- The part of an event that concerns an id. -/
def callFor (sequenceId : UInt64)
    (event : Event (System capacity) Call Reply) : Option OrderCall :=
  match event.input with
  | .enqueue request =>
      if request.sequenceId = sequenceId then
        some (.offer request !event.before.pipeline.buffer.full)
      else none
  | .drain => some .drain
  | .sendCancel request =>
      if request.sequenceId = sequenceId then some (.cancel request)
      else none
  | .sendAmend request =>
      if request.sequenceId = sequenceId then some (.amend request)
      else none

/-- What the iterations of a drain did with the order of an id. -/
def outcomeFor (calls : List DrainCall) (sequenceId : UInt64) :
    Option DrainOutcome :=
  (calls.find? fun call => call.order.sequenceId == sequenceId).map
    DrainCall.outcome

/-- What an answer says about an id. -/
def replyFor (sequenceId : UInt64)
    (event : Event (System capacity) Call Reply) : Option OrderReply :=
  match event.input, event.output with
  | .enqueue request, .enqueued accepted =>
      if request.sequenceId = sequenceId then some (.offered accepted)
      else none
  | .drain, .drained _ calls =>
      some (.drained (outcomeFor calls sequenceId))
  | .sendCancel request, .cancelled response =>
      if request.sequenceId = sequenceId then some (.cancelled response)
      else none
  | .sendAmend request, .amended response =>
      if request.sequenceId = sequenceId then some (.amended response)
      else none
  | _, _ => none

/-! ## Queues -/

section Queues

variable {order : OrderRequest} {queue : List OrderRequest}
  {sequenceId : UInt64}

theorem waitingFor_cons_self :
    waitingFor (order :: queue) order.sequenceId = some order :=
  List.find?_cons_of_pos (beq_self_eq_true _)

theorem waitingFor_cons_of_ne (other : order.sequenceId ≠ sequenceId) :
    waitingFor (order :: queue) sequenceId = waitingFor queue sequenceId :=
  List.find?_cons_of_neg (by simpa using other)

theorem waitingFor_eq_none_iff :
    waitingFor queue sequenceId = none ↔
      sequenceId ∉ queue.map OrderRequest.sequenceId := by
  simp only [waitingFor, List.find?_eq_none, beq_iff_eq, List.mem_map,
    not_exists, not_and]

theorem waitingFor_concat_self
    (absent : waitingFor queue order.sequenceId = none) :
    waitingFor (queue ++ [order]) order.sequenceId = some order := by
  rw [waitingFor, List.find?_append]
  rw [waitingFor] at absent
  rw [absent, Option.none_or]
  exact waitingFor_cons_self

theorem waitingFor_concat_of_ne (other : order.sequenceId ≠ sequenceId) :
    waitingFor (queue ++ [order]) sequenceId =
      waitingFor queue sequenceId := by
  have last : waitingFor [order] sequenceId = none :=
    waitingFor_cons_of_ne other
  rw [waitingFor] at last
  rw [waitingFor, List.find?_append, last, Option.or_none]
  rfl

end Queues

/-! ## Changes of one id -/

/-- A synchronised system whose risk decisions are those of its limits. -/
structure Decided (limits : RiskLimits) (system : System capacity) :
    Prop where
  synchronised : Synchronised system
  decides :
    system.riskManager.firstFailure =
      (PreTradeRiskManager.ofLimits limits).firstFailure

theorem Decided.fresh (limits : RiskLimits) (journal : Bool) :
    Decided limits (fresh limits journal : System capacity) where
  synchronised := Synchronised.fresh limits journal
  decides := rfl

theorem Decided.effect {limits : RiskLimits}
    {system next : System capacity} {observation : Observation}
    (decided : Decided limits system)
    (effect : Effect riskManager system observation next) :
    Decided limits next where
  synchronised := effect.synchronised decided.synchronised
  decides := (firstFailure_of_effect effect).trans decided.decides

theorem Decided.step {limits : RiskLimits} {system : System capacity}
    (decided : Decided limits system) (riskManager : Bool) (call : Call) :
    Decided limits (step (tracked riskManager) system call).2 :=
  (step_effects decided.synchronised call).invariant (Decided limits)
    (fun _ _ _ effect decided => decided.effect effect) decided

/-- What some limits decide is what the manager of a system decides. -/
theorem Decided.decisions_eq {limits : RiskLimits}
    {system : System capacity} (decided : Decided limits system)
    (riskManager : Bool) (order : OrderRequest) :
    decisions riskManager limits order =
      if riskManager then system.riskManager.firstFailure order
      else none := by
  rw [decisions, decided.decides]

section Updates

variable {system next : System capacity} {sequenceId : UInt64}
  {update : Update}
  (changed :
    Updated system.lifecycleTracker sequenceId update
      next.lifecycleTracker)
include changed

theorem view_updated_self {waiting active : Option OrderRequest}
    {seen : Bool}
    (waits :
      waitingFor next.pipeline.buffer.contents sequenceId = waiting)
    (trades : next.exchange.findActiveOrder sequenceId = active)
    (shown : decide (sequenceId ∈ next.exchange.seenSequenceIds) = seen) :
    view next sequenceId =
      { (view system sequenceId).updated update with
        waiting := waiting
        active := active
        seen := seen } := by
  have record :
      next.lifecycleTracker.find sequenceId = some update.record := by
    rw [OrderLifecycleTracker.find, changed.records]
    exact Finmap.lookup_insert _
  have reports := congrFun changed.bodies sequenceId
  rw [Function.update_self] at reports
  rw [view, record, reports, waits, trades, shown]
  rfl

theorem view_updated_of_ne {other : UInt64} (distinct : other ≠ sequenceId)
    (waiting :
      waitingFor next.pipeline.buffer.contents other =
        waitingFor system.pipeline.buffer.contents other)
    (active :
      next.exchange.findActiveOrder other =
        system.exchange.findActiveOrder other)
    (seen :
      other ∈ next.exchange.seenSequenceIds ↔
        other ∈ system.exchange.seenSequenceIds) :
    view next other = view system other := by
  have record :
      next.lifecycleTracker.find other =
        system.lifecycleTracker.find other := by
    rw [OrderLifecycleTracker.find, changed.records]
    exact Finmap.lookup_insert_of_ne _ distinct
  have reports := congrFun changed.bodies other
  rw [Function.update_of_ne distinct] at reports
  rw [view, view, record, reports, waiting, active, decide_eq_decide.mpr seen]

end Updates

/-- The id that an observation is about. -/
def observedId : Observation → UInt64
  | .enqueued request _ => request.sequenceId
  | .drained call => call.order.sequenceId
  | .cancelled request _ => request.sequenceId
  | .amended request _ => request.sequenceId

theorem waitingFor_restBuffer {system : System capacity}
    {order : OrderRequest} {rest : List OrderRequest} {other : UInt64}
    (queue : system.pipeline.buffer.contents = order :: rest)
    (distinct : other ≠ order.sequenceId) :
    waitingFor (restBuffer system).contents other =
      waitingFor system.pipeline.buffer.contents other := by
  rw [contents_restBuffer queue, queue,
    waitingFor_cons_of_ne distinct.symm]

/-- An effect shows at no id but its own. -/
theorem effect_view_of_ne {system next : System capacity}
    {observation : Observation} {other : UInt64}
    (effect : Effect riskManager system observation next)
    (distinct : other ≠ observedId observation) :
    view next other = view system other := by
  cases effect with
  | refusedAsKnown => rfl
  | dropped => rfl
  | joined _ room =>
      apply view_updated_of_ne (enqueued_updated _ _) distinct
      · simp only [joined, RingBuffer.contents_push room]
        exact waitingFor_concat_of_ne distinct.symm
      · rfl
      · exact Iff.rfl
  | refusedByRisk queue =>
      apply view_updated_of_ne (marked_updated _ _ _ _) distinct
      · exact waitingFor_restBuffer queue distinct
      · rfl
      · exact Iff.rfl
  | acceptedOrder queue =>
      apply view_updated_of_ne (completed_updated _ _ _ _ _) distinct
      · exact waitingFor_restBuffer queue distinct
      · exact Finmap.lookup_insert_of_ne _ distinct
      · rw [acceptedOrder, Finset.mem_insert]
        exact or_iff_right distinct
  | rejectedOrder queue =>
      apply view_updated_of_ne (completed_updated _ _ _ _ _) distinct
      · exact waitingFor_restBuffer queue distinct
      · rfl
      · exact Iff.rfl
  | cancelRefused => rfl
  | cancelledOrder =>
      apply view_updated_of_ne (completed_updated _ _ _ _ _) distinct
      · rfl
      · exact Finmap.lookup_erase_ne distinct
      · exact Iff.rfl
  | amendRefused => rfl
  | acceptedAmend =>
      apply view_updated_of_ne (completed_updated _ _ _ _ _) distinct
      · rfl
      · exact Finmap.lookup_insert_of_ne _ distinct
      · exact Iff.rfl
  | rejectedAmend =>
      apply view_updated_of_ne (completed_updated _ _ _ _ _) distinct
      · rfl
      · rfl
      · exact Iff.rfl

/-! ## Enqueue -/

section Enqueue

variable {system : System capacity} (synchronised : Synchronised system)
  (request : OrderRequest)
include synchronised

/-- An id without a record does not wait in the queue. -/
theorem waitingFor_of_unknown {sequenceId : UInt64}
    (unknown : sequenceId ∉ system.lifecycleTracker.records) :
    waitingFor system.pipeline.buffer.contents sequenceId = none := by
  rw [waitingFor_eq_none_iff]
  intro queued
  have state := (Agreement.queued_iff synchronised sequenceId).mp queued
  rw [(stateOf_eq_none_iff _ _).mpr unknown] at state
  contradiction

theorem enqueue_view_self (riskManager : Bool)
    (risk : OrderRequest → Option RiskRejectReason) :
    (OrderReply.offered (enqueue (tracked riskManager) system request).1,
        view (enqueue (tracked riskManager) system request).2
          request.sequenceId) =
      orderStep risk (view system request.sequenceId)
        (.offer request !system.pipeline.buffer.full) := by
  by_cases known : request.sequenceId ∈ system.lifecycleTracker.records
  · rcases Finmap.mem_iff.mp known with ⟨record, found⟩
    have present :
        (view system request.sequenceId).record = some record := found
    rw [enqueue_of_known rfl known, orderStep, present]
    rfl
  · have absent : (view system request.sequenceId).record = none :=
      Finmap.lookup_eq_none.mpr known
    cases room : system.pipeline.buffer.full with
    | true =>
        rw [enqueue_of_full (fun _ => known) room, orderStep, absent]
        rfl
    | false =>
        have last :=
          waitingFor_concat_self
            (waitingFor_of_unknown synchronised known)
        rw [← RingBuffer.contents_push room] at last
        have joins :
            view (joined (tracked riskManager) system request)
                request.sequenceId = _ :=
          view_updated_self (enqueued_updated system.lifecycleTracker _)
            last rfl rfl
        rw [enqueue_of_room (fun _ => known) room, joins, orderStep, absent]
        rfl

omit synchronised in
/-- An offer that is taken in joins the end of the queue. -/
theorem enqueue_contents (wiring : Wiring) :
    (enqueue wiring system request).2.pipeline.buffer.contents =
      if (enqueue wiring system request).1 then
        system.pipeline.buffer.contents ++ [request]
      else system.pipeline.buffer.contents := by
  rcases enqueue_cases wiring system request with
    ⟨tracker, known⟩ | unknown
  · rw [enqueue_of_known tracker known]
    rfl
  · cases room : system.pipeline.buffer.full with
    | true =>
        rw [enqueue_of_full unknown room]
        rfl
    | false =>
        rw [enqueue_of_room unknown room]
        exact RingBuffer.contents_push room request

/-- An offer is taken in exactly if its id is new and there is room. -/
theorem enqueue_accepted (riskManager : Bool) :
    (enqueue (tracked riskManager) system request).1 =
      ((view system request.sequenceId).record.isNone &&
        !system.pipeline.buffer.full) := by
  have own :=
    congrArg Prod.fst
      (enqueue_view_self synchronised request riskManager fun _ => none)
  simp only [orderStep] at own
  split_ifs at own with taken
  · exact (OrderReply.offered.inj own).trans taken.symm
  · exact (OrderReply.offered.inj own).trans (Bool.eq_false_iff.mpr taken).symm

end Enqueue

/-! ## Systems with the same queue -/

section SameQueue

variable {left right : System capacity}
  (same : left.pipeline.buffer.contents = right.pipeline.buffer.contents)
include same

/-- Buffers with the same contents are full at the same time. -/
theorem full_congr :
    left.pipeline.buffer.full = right.pipeline.buffer.full := by
  rw [Bool.eq_iff_iff, RingBuffer.full_iff, RingBuffer.full_iff, same]

/-- A call concerns the same orders of both systems in the same way. -/
theorem callFor_congr (first second : Wiring) (sequenceId : UInt64)
    (call : Call) :
    callFor sequenceId (event (step first) left call) =
      callFor sequenceId (event (step second) right call) := by
  cases call with
  | enqueue request => simp only [callFor, event, full_congr same]
  | drain => rfl
  | sendCancel request => rfl
  | sendAmend request => rfl

/-- Systems that take in the same offers keep the same queue. -/
theorem step_contents_congr {first second : Wiring}
    (accepts :
      ∀ request,
        (enqueue first left request).1 = (enqueue second right request).1)
    (call : Call) :
    (step first left call).2.pipeline.buffer.contents =
      (step second right call).2.pipeline.buffer.contents := by
  cases call with
  | enqueue request =>
      simp only [step]
      rw [enqueue_contents, enqueue_contents, accepts, same]
  | drain =>
      have emptied := (drain_trace first left).1.orders.2
      have emptied' := (drain_trace second right).1.orders.2
      exact emptied.trans emptied'.symm
  | sendCancel request => exact same
  | sendAmend request => exact same

end SameQueue

/-! ## Drain -/

/-- An exchange answers an order it has not seen like an empty exchange. -/
theorem submitOrder_verdict {exchange : ExchangeSimulator}
    {order : OrderRequest}
    (unseen : order.sequenceId ∉ exchange.seenSequenceIds) :
    (exchange.submitOrder order).1 = verdict order := by
  simp only [verdict, ExchangeSimulator.submitOrder, unseen,
    Finset.notMem_empty, if_false]
  split_ifs <;> rfl

section Settle

variable {risk : OrderRequest → Option RiskRejectReason}
  {order : OrderRequest} {record : OrderLifecycleRecord}
  {before : OrderView}

theorem settle_of_riskRejected {reason : RiskRejectReason}
    (outcome :
      (settle risk order record before).1 = .riskRejected reason) :
    (settle risk order record before).2 =
      { before.updated (markUpdate record (.riskRejected reason)) with
        waiting := none } := by
  cases decision : risk order with
  | none =>
      simp only [settle, decision] at outcome
      contradiction
  | some _ =>
      simp only [settle, decision] at outcome ⊢
      rw [DrainOutcome.riskRejected.inj outcome]

theorem settle_of_dispatched {state : Option OrderLifecycleState}
    {response : OrderResponse}
    (outcome :
      (settle risk order record before).1 =
        .dispatched true state response) :
    (settle risk order record before).2 =
      { before.updated
          (completedUpdate record .sent (responseMark response)) with
        waiting := none
        active := if response.accepted then some order else before.active
        seen := response.accepted || before.seen } := by
  cases decision : risk order with
  | none =>
      simp only [settle, decision] at outcome ⊢
      rw [(DrainOutcome.dispatched.inj outcome).2.2]
  | some _ =>
      simp only [settle, decision] at outcome
      contradiction

end Settle

section Drain

variable {limits : RiskLimits} {system : System capacity}
  (decided : Decided limits system)
  {order : OrderRequest} {rest : List OrderRequest}
  (queue : system.pipeline.buffer.contents = order :: rest)
include decided queue

/-- Processing the head of the queue ends as for an order that is alone. -/
theorem drainOrder_outcome (riskManager : Bool)
    (record : OrderLifecycleRecord)
    (before : OrderView) :
    (drainOrder (tracked riskManager) (popped system (restBuffer system))
        order).1 =
      (settle (decisions riskManager limits) order record before).1 := by
  rcases decided.synchronised.waiting queue with ⟨found, lookup, state⟩
  have waiting :
      Waiting (tracked riskManager)
        (passedOn riskManager system).lifecycleTracker
        order.sequenceId found :=
    ⟨fun _ => lookup, fun _ => state⟩
  have decision := decided.decisions_eq riskManager order
  by_cases passes :
      riskManager = true → system.riskManager.firstFailure order = none
  · have passed : decisions riskManager limits order = none := by
      rw [decision]
      split_ifs with checks
      · exact passes checks
      · rfl
    have answer :
        (passedOn riskManager system).exchange.submitOrder order =
          system.exchange.submitOrder order := rfl
    have dispatched :
        drainOrder (tracked riskManager)
            (popped system (restBuffer system)) order =
          dispatch (tracked riskManager) (passedOn riskManager system)
            order :=
      drainOrder_of_pass passes
    rw [dispatched, dispatch_of_waiting rfl rfl waiting, stateOf_sent,
      answer, submitOrder_verdict (decided.synchronised.unseen queue)]
    simp only [settle, passed]
  · rcases Classical.not_imp.mp passes with ⟨checks, fails⟩
    rcases Option.ne_none_iff_exists'.mp fails with ⟨reason, failure⟩
    have refused : decisions riskManager limits order = some reason := by
      rw [decision, if_pos checks, failure]
    have failed :
        (popped system (restBuffer system)).riskManager.firstFailure
          order = some reason :=
      failure
    rw [drainOrder_of_failure checks failed waiting]
    simp only [settle, refused]

/-- The head of the queue does not wait behind itself. -/
theorem waitingFor_rest :
    waitingFor rest order.sequenceId = none := by
  have distinct := Agreement.nodup decided.synchronised
  rw [queuedIds_of_contents queue, List.nodup_cons] at distinct
  exact waitingFor_eq_none_iff.mpr distinct.1

theorem drainOrder_view_self (riskManager : Bool)
    {record : OrderLifecycleRecord}
    (found :
      system.lifecycleTracker.records.lookup order.sequenceId =
        some record) :
    view
        (drainOrder (tracked riskManager)
          (popped system (restBuffer system)) order).2
        order.sequenceId =
      (settle (decisions riskManager limits) order record
        (view system order.sequenceId)).2 := by
  have outcome :=
    drainOrder_outcome decided queue riskManager record
      (view system order.sequenceId)
  have effect :=
    drainOrder_effect riskManager decided.synchronised queue
  have alone := waitingFor_rest decided queue
  rw [← contents_restBuffer queue] at alone
  generalize drainOrder (tracked riskManager)
    (popped system (restBuffer system)) order = result at outcome effect ⊢
  rcases result with ⟨result, next⟩
  cases effect with
  | refusedByRisk _ lookup =>
      rcases Option.some.inj (lookup.symm.trans found) with rfl
      rw [settle_of_riskRejected outcome.symm]
      exact
        view_updated_self (marked_updated system.lifecycleTracker _ _ _)
          alone rfl rfl
  | acceptedOrder _ lookup =>
      rcases Option.some.inj (lookup.symm.trans found) with rfl
      rw [settle_of_dispatched outcome.symm]
      apply
        view_updated_self (completed_updated system.lifecycleTracker _ _ _ _)
          alone
      · exact Finmap.lookup_insert _
      · exact decide_eq_true (Finset.mem_insert_self _ _)
  | rejectedOrder _ lookup =>
      rcases Option.some.inj (lookup.symm.trans found) with rfl
      rw [settle_of_dispatched outcome.symm]
      exact
        view_updated_self (completed_updated system.lifecycleTracker _ _ _ _)
          alone rfl rfl

end Drain

theorem outcomeFor_cons_self (call : DrainCall) (calls : List DrainCall) :
    outcomeFor (call :: calls) call.order.sequenceId =
      some call.outcome := by
  simp [outcomeFor]

theorem outcomeFor_cons_of_ne {call : DrainCall} {calls : List DrainCall}
    {sequenceId : UInt64} (other : call.order.sequenceId ≠ sequenceId) :
    outcomeFor (call :: calls) sequenceId =
      outcomeFor calls sequenceId := by
  simp [outcomeFor, other]

/-- A drain settles every waiting order as if it were alone. -/
theorem drainTrace_view {limits : RiskLimits}
    {system final : System capacity} {calls : List DrainCall}
    (trace : DrainTrace (tracked riskManager) system calls final)
    (decided : Decided limits system) (sequenceId : UInt64) :
    (OrderReply.drained (outcomeFor calls sequenceId),
        view final sequenceId) =
      orderStep (decisions riskManager limits) (view system sequenceId)
        .drain := by
  induction trace with
  | @done system drained =>
      have idle : (view system sequenceId).waiting = none := by
        rw [view, drained]
        rfl
      rw [orderStep, idle]
      rfl
  | @step system next final call calls head tail induction =>
      have effect := drainStep_effect decided.synchronised head
      have later := induction (decided.effect effect)
      rcases drainStep_inv head with ⟨rest, queue, remaining, processed⟩
      by_cases own : call.order.sequenceId = sequenceId
      · subst own
        rcases decided.synchronised.waiting queue with ⟨record, found, _⟩
        have outcome :=
          drainOrder_outcome decided queue riskManager record
            (view system call.order.sequenceId)
        have settled :=
          drainOrder_view_self decided queue riskManager found
        rw [processed] at outcome settled
        have idle :
            (view next call.order.sequenceId).waiting = none := by
          rw [view, remaining]
          exact waitingFor_rest decided queue
        have waits :
            (view system call.order.sequenceId).waiting =
              some call.order := by
          rw [view, queue]
          exact waitingFor_cons_self
        have known :
            (view system call.order.sequenceId).record = some record :=
          found
        rw [orderStep, idle] at later
        rw [orderStep, waits, known, outcomeFor_cons_self,
          (Prod.mk.inj later).2, settled]
        simp only [← outcome]
      · rw [outcomeFor_cons_of_ne own,
          ← effect_view_of_ne effect (Ne.symm own)]
        exact later

/-! ## Cancel and amend -/

section Actions

variable {system : System capacity} {sequenceId : UInt64}

theorem accepted_of_found {record : OrderLifecycleRecord}
    (found :
      system.lifecycleTracker.records.lookup sequenceId = some record)
    (accepted : record.state = .exchangeAccepted) :
    (view system sequenceId).accepted = some record := by
  rw [OrderView.accepted, Option.filter_eq_some_iff]
  exact ⟨found, decide_eq_true accepted⟩

theorem accepted_of_illegal
    (illegal :
      system.lifecycleTracker.stateOf sequenceId ≠
        some .exchangeAccepted) :
    (view system sequenceId).accepted = none := by
  rw [OrderView.accepted, Option.filter_eq_none_iff]
  intro record found accepted
  apply illegal
  rw [stateOf_eq_some_iff]
  exact ⟨record, found, of_decide_eq_true accepted⟩

theorem cancel_view_self
    (risk : OrderRequest → Option RiskRejectReason)
    {next : System capacity} {request : CancelRequest}
    {response : CancelResponse}
    (effect :
      Effect riskManager system (.cancelled request response) next) :
    (OrderReply.cancelled response, view next request.sequenceId) =
      orderStep risk (view system request.sequenceId)
        (.cancel request) := by
  cases effect with
  | cancelRefused illegal =>
      rw [orderStep, accepted_of_illegal illegal]
      rfl
  | cancelledOrder found accepted =>
      rw [orderStep, accepted_of_found found accepted]
      refine congrArg (Prod.mk _) ?_
      exact
        view_updated_self (completed_updated system.lifecycleTracker _ _ _ _)
          rfl (Finmap.lookup_erase _ _) rfl

/-- An exchange answers an amendment of an active order for itself. -/
theorem amendOrder_verdict {exchange : ExchangeSimulator}
    {request : AmendRequest} {order : OrderRequest}
    (active :
      exchange.activeOrders.lookup request.sequenceId = some order) :
    (exchange.amendOrder request).1 = amendVerdict order request := by
  simp only [amendVerdict, ExchangeSimulator.amendOrder, active,
    Finmap.lookup_singleton_eq]
  split_ifs <;> rfl

/-- An accepted order is amended as if it were alone. -/
theorem sendAmend_answer
    {request : AmendRequest} {order : OrderRequest}
    (active :
      system.exchange.activeOrders.lookup request.sequenceId = some order)
    (state :
      system.lifecycleTracker.stateOf request.sequenceId =
        some .exchangeAccepted) :
    (sendAmend (tracked riskManager).venue system.toVenue request).1 =
      amendVerdict order request := by
  rcases (stateOf_eq_some_iff _ _).mp state with ⟨record, found, accepted⟩
  rw [sendAmend,
    sendAction_of_accepted (amendPath_cyclic request) found accepted]
  exact amendOrder_verdict active

theorem amend_view_self
    (risk : OrderRequest → Option RiskRejectReason)
    (synchronised : Synchronised system)
    {next : System capacity} {request : AmendRequest}
    {response : AmendResponse}
    (effect :
      Effect riskManager system (.amended request response) next)
    (answer :
      ∀ order,
        system.exchange.activeOrders.lookup request.sequenceId =
            some order →
          system.lifecycleTracker.stateOf request.sequenceId =
              some .exchangeAccepted →
            response = amendVerdict order request) :
    (OrderReply.amended response, view next request.sequenceId) =
      orderStep risk (view system request.sequenceId)
        (.amend request) := by
  cases effect with
  | amendRefused illegal =>
      rw [orderStep, accepted_of_illegal illegal]
      rfl
  | acceptedAmend found accepted active =>
      have state := (stateOf_eq_some_iff _ _).mpr ⟨_, found, accepted⟩
      have trades :
          (view system request.sequenceId).active = some _ := active
      rw [orderStep, accepted_of_found found accepted, trades]
      simp only [← answer _ active state]
      refine congrArg (Prod.mk _) ?_
      exact
        view_updated_self (completed_updated system.lifecycleTracker _ _ _ _)
          rfl (Finmap.lookup_insert _) rfl
  | rejectedAmend found accepted =>
      have state := (stateOf_eq_some_iff _ _).mpr ⟨_, found, accepted⟩
      rcases synchronised.active found accepted with ⟨order, active⟩
      have trades :
          (view system request.sequenceId).active = some order := active
      rw [orderStep, accepted_of_found found accepted, trades]
      simp only [← answer _ active state]
      refine congrArg (Prod.mk _) ?_
      exact
        view_updated_self (completed_updated system.lifecycleTracker _ _ _ _)
          rfl active rfl

/-- A cancel is answered as if the order were alone. -/
theorem sendCancel_alone (synchronised : Synchronised system)
    (riskManager : Bool) (risk : OrderRequest → Option RiskRejectReason)
    (request : CancelRequest) :
    OrderReply.cancelled
        (sendCancel (tracked riskManager).venue system.toVenue request).1 =
      (orderStep risk (view system request.sequenceId)
        (.cancel request)).1 := by
  have effect : Effect riskManager system _ _ :=
    sendCancel_effect synchronised request
  exact congrArg Prod.fst (cancel_view_self risk effect)

/-- An amendment is answered as if the order were alone. -/
theorem sendAmend_alone (synchronised : Synchronised system)
    (riskManager : Bool) (risk : OrderRequest → Option RiskRejectReason)
    (request : AmendRequest) :
    OrderReply.amended
        (sendAmend (tracked riskManager).venue system.toVenue request).1 =
      (orderStep risk (view system request.sequenceId)
        (.amend request)).1 := by
  have effect : Effect riskManager system _ _ :=
    sendAmend_effect synchronised request
  exact
    congrArg Prod.fst
      (amend_view_self risk synchronised effect fun _ => sendAmend_answer)

end Actions

/-! ## Every system is a family of abstract orders -/

/-- An id is shown by a system as by the abstract order. -/
structure Shows (limits : RiskLimits) (sequenceId : UInt64)
    (system : System capacity) (shown : OrderView) : Prop where
  decided : Decided limits system
  shows : view system sequenceId = shown

/-- The step lemma: a call does to each id what it does to a lone order. -/
theorem step_follows (riskManager : Bool) (limits : RiskLimits)
    (sequenceId : UInt64) :
    Follows
      (step (tracked riskManager) :
        System capacity → Call → Reply × System capacity)
      (orderStep (decisions riskManager limits)) (Shows limits sequenceId)
      (callFor sequenceId) (replyFor sequenceId)
      (fun entry => some entry.output) where
  unseen system shown call shows silent := by
    have decided := shows.decided.step riskManager call
    rcases shows with ⟨⟨synchronised, decides⟩, rfl⟩
    cases call with
    | enqueue request =>
        have other : ¬ request.sequenceId = sequenceId := by
          simpa [callFor, event] using silent
        have effect := enqueue_effect riskManager system request
        constructor
        · exact ⟨decided, effect_view_of_ne effect (Ne.symm other)⟩
        · exact if_neg other
    | drain => contradiction
    | sendCancel request =>
        have other : ¬ request.sequenceId = sequenceId := by
          simpa [callFor, event] using silent
        have effect : Effect riskManager system _ _ :=
          sendCancel_effect synchronised request
        constructor
        · exact ⟨decided, effect_view_of_ne effect (Ne.symm other)⟩
        · exact if_neg other
    | sendAmend request =>
        have other : ¬ request.sequenceId = sequenceId := by
          simpa [callFor, event] using silent
        have effect : Effect riskManager system _ _ :=
          sendAmend_effect synchronised request
        constructor
        · exact ⟨decided, effect_view_of_ne effect (Ne.symm other)⟩
        · exact if_neg other
  seen system shown call small shows concerns := by
    have decided := shows.decided.step riskManager call
    rcases shows with ⟨before, rfl⟩
    cases call with
    | enqueue request =>
        simp only [callFor, event, Option.ite_none_right_eq_some,
          Option.some.injEq] at concerns
        rcases concerns with ⟨rfl, rfl⟩
        rcases
          Prod.mk.inj
            (enqueue_view_self before.synchronised request riskManager
              (decisions riskManager limits)) with
          ⟨answer, shown⟩
        exact ⟨⟨decided, shown⟩, (if_pos rfl).trans (congrArg some answer)⟩
    | drain =>
        rcases Option.some.inj concerns with rfl
        have trace := (drain_trace (tracked riskManager) system).1
        rcases Prod.mk.inj (drainTrace_view trace before sequenceId) with
          ⟨answer, shown⟩
        exact ⟨⟨decided, shown⟩, congrArg some answer⟩
    | sendCancel request =>
        simp only [callFor, event, Option.ite_none_right_eq_some,
          Option.some.injEq] at concerns
        rcases concerns with ⟨rfl, rfl⟩
        have effect : Effect riskManager system _ _ :=
          sendCancel_effect before.synchronised request
        rcases
          Prod.mk.inj
            (cancel_view_self (decisions riskManager limits) effect) with
          ⟨answer, shown⟩
        exact ⟨⟨decided, shown⟩, (if_pos rfl).trans (congrArg some answer)⟩
    | sendAmend request =>
        simp only [callFor, event, Option.ite_none_right_eq_some,
          Option.some.injEq] at concerns
        rcases concerns with ⟨rfl, rfl⟩
        have effect : Effect riskManager system _ _ :=
          sendAmend_effect before.synchronised request
        rcases
          Prod.mk.inj
            (amend_view_self (decisions riskManager limits)
              before.synchronised effect fun _ => sendAmend_answer) with
          ⟨answer, shown⟩
        exact ⟨⟨decided, shown⟩, (if_pos rfl).trans (congrArg some answer)⟩

section Step

variable {limits : RiskLimits} {system : System capacity}
  (decided : Decided limits system) {sequenceId : UInt64} {call : Call}
include decided

/-- A call that does not concern an id leaves its view alone. -/
theorem step_unshown
    (silent :
      callFor sequenceId (event (step (tracked riskManager)) system call) =
        none) :
    view (step (tracked riskManager) system call).2 sequenceId =
      view system sequenceId :=
  ((step_follows riskManager limits sequenceId).unseen system _ call
    ⟨decided, rfl⟩ silent).1.shows

/-- A call that concerns an id changes its view like a lone order. -/
theorem step_shown {small : OrderCall}
    (concerns :
      callFor sequenceId (event (step (tracked riskManager)) system call) =
        some small) :
    view (step (tracked riskManager) system call).2 sequenceId =
        (orderStep (decisions riskManager limits)
          (view system sequenceId) small).2 ∧
      replyFor sequenceId
          (event (step (tracked riskManager)) system call) =
        some
          (orderStep (decisions riskManager limits)
            (view system sequenceId) small).1 := by
  have seen :=
    (step_follows riskManager limits sequenceId).seen system _ call small
      ⟨decided, rfl⟩ concerns
  exact ⟨seen.1.shows, seen.2⟩

end Step

/--
A tracked system is a family of orders that are alone: what it shows of an id
after any calls, and every answer it gave about the id, are those of the
abstract order of this id.  Reports are compared apart from their event
indexes.  Other orders only decide whether an offer finds room.
-/
theorem run_orders_alone (riskManager journal : Bool) (limits : RiskLimits)
    (calls : List Call) (sequenceId : UInt64) :
    let start : System capacity := fresh limits journal
    let happened :=
      projected (step (tracked riskManager)) (callFor sequenceId) start calls
    view (runFresh (tracked riskManager) limits journal calls :
          System capacity) sequenceId =
        run (orderStep (decisions riskManager limits)) (newView journal)
          happened ∧
      (events (step (tracked riskManager)) start calls).filterMap
          (replyFor sequenceId) =
        outputs (orderStep (decisions riskManager limits))
          (newView journal) happened := by
  have start :
      Shows limits sequenceId (fresh limits journal : System capacity)
        (newView journal) :=
    ⟨Decided.fresh limits journal, view_fresh limits journal sequenceId⟩
  have followed :=
    (step_follows riskManager limits sequenceId).run start calls
  rw [filterMap_output] at followed
  exact ⟨followed.1.shows, followed.2⟩

end Llgw.OrderViews
