import Llgw.ClosedLedgers

/-!
# A pipeline without an exchange

Both the gateway pointer of a pipeline and the exchange pointer of a gateway
may be null.  With either of them null no order can reach an exchange, and the
pipeline fails closed: nothing is accepted, every order that is drained is
turned away with a reason, and the tracker, if there is one, has exactly one
settled record for each of them.  The history of the calls determines every
answer and every counter.  This holds with and without a risk manager and with
a tracker at the pipeline, at the gateway, at both or at neither.
-/

namespace Llgw.Disconnected

open Llgw.Foundation
open Llgw.Foundation.KeyedStore
open Llgw.Foundation.LabelledTrace
open Llgw.Messages
open Llgw.Buffer
open Llgw.Risk
open Llgw.Exchange
open Llgw.Lifecycle
open Llgw.LifecycleMarks
open Llgw.Gateway
open Llgw.Pipeline
open Llgw.System
open Llgw.StepEffects
open Llgw.RiskGuarantees
open Llgw.HistoryCounts
open Llgw.ClosedLedgers

variable {capacity : ℕ+} {wiring : Wiring} {limits : RiskLimits}
  {journal : Bool} {history : List Observation}
  {system next : System capacity}

/-- No order of the pipeline can reach an exchange. -/
def Unreachable (wiring : Wiring) : Prop :=
  wiring.gateway = false ∨ wiring.venue.exchange = false

/-! ## The answers -/

/-- What a risk check, if there is one, decides about an order. -/
def riskVerdict (wiring : Wiring) (limits : RiskLimits)
    (order : OrderRequest) : Option RiskRejectReason :=
  if wiring.riskManager then
    (PreTradeRiskManager.ofLimits limits).firstFailure order
  else none

/-- The response of `SendOrder` without an exchange. -/
def turnedAway (order : OrderRequest) : OrderResponse where
  sequenceId := order.sequenceId
  accepted := false
  rejectReason := .invalidSymbol

/-- What `Drain` does with an order that passes the risk check. -/
def passedOutcome (wiring : Wiring) (order : OrderRequest) : DrainOutcome :=
  if wiring.gateway then
    .dispatched true (if wiring.lifecycleTracker then some .sent else none)
      (turnedAway order)
  else .noGateway

/-- What `Drain` does with an order. -/
def closedOutcome (wiring : Wiring) (limits : RiskLimits)
    (order : OrderRequest) : DrainOutcome :=
  match riskVerdict wiring limits order with
  | some reason => .riskRejected reason
  | none => passedOutcome wiring order

/-- The response to an action, by the tracker or for want of an order. -/
def closedResponse {Response : Type} (wiring : Wiring)
    (path : ActionPath Response) : Response :=
  if wiring.venue.lifecycleTracker then path.refusal else path.noExchange

/-- What is seen of a call that reaches no exchange, after others. -/
def ClosedAnswer (capacity : ℕ+) (wiring : Wiring) (limits : RiskLimits)
    (past : List Observation) : Observation → Prop
  | .enqueued request accepted =>
      accepted =
        (!known wiring past request.sequenceId &&
          decide (waitingCount past < capacity))
  | .drained call => call.outcome = closedOutcome wiring limits call.order
  | .cancelled request response =>
      response = closedResponse wiring (cancelPath request)
  | .amended request response =>
      response = closedResponse wiring (amendPath request)

/-! ## The records -/

/-- The record of an order that waits in the queue. -/
def queuedRecord (order : OrderRequest) : OrderLifecycleRecord where
  sequenceId := order.sequenceId
  state := .queued

/-- The record of an order that was drained with this outcome. -/
def settledRecord (call : DrainCall) : OrderLifecycleRecord :=
  match call.outcome with
  | .riskRejected reason =>
      { sequenceId := call.order.sequenceId
        state := .riskRejected
        riskRejectReason := reason }
  | _ =>
      { sequenceId := call.order.sequenceId
        state := .exchangeRejected
        exchangeRejectReason := .invalidSymbol }

theorem settledRecord_sequenceId (call : DrainCall) :
    (settledRecord call).sequenceId = call.order.sequenceId := by
  unfold settledRecord
  split <;> rfl

/-- No record of a drained order is in a state that allows an action. -/
theorem settledRecord_state (call : DrainCall) :
    (settledRecord call).state = .riskRejected ∨
      (settledRecord call).state = .exchangeRejected := by
  unfold settledRecord
  split
  · exact Or.inl rfl
  · exact Or.inr rfl

/-- The records of the orders that were drained and of those that wait. -/
def recordsOf (calls : List DrainCall) (queue : List OrderRequest) :
    List OrderLifecycleRecord :=
  calls.map settledRecord ++ queue.map queuedRecord

/-- The ids of the orders that were drained and of those that wait. -/
def idsOf (calls : List DrainCall) (queue : List OrderRequest) :
    List UInt64 :=
  calls.map (fun call => call.order.sequenceId) ++
    queue.map OrderRequest.sequenceId

theorem map_sequenceId_recordsOf (calls : List DrainCall)
    (queue : List OrderRequest) :
    (recordsOf calls queue).map OrderLifecycleRecord.sequenceId =
      idsOf calls queue := by
  rw [recordsOf, idsOf, List.map_append, List.map_map, List.map_map]
  congr 1
  exact List.map_congr_left fun call _ => settledRecord_sequenceId call

theorem recordsOf_state {calls : List DrainCall}
    {queue : List OrderRequest} {record : OrderLifecycleRecord}
    (member : record ∈ recordsOf calls queue) :
    record.state ≠ .exchangeAccepted := by
  rcases List.mem_append.mp member with settled | waiting
  · rcases List.mem_map.mp settled with ⟨call, _, rfl⟩
    rcases settledRecord_state call with state | state <;> simp [state]
  · rcases List.mem_map.mp waiting with ⟨order, _, rfl⟩
    exact nofun

/--
The tracker has exactly the records of the orders that were drained and of
those that wait, or none at all if the pipeline has no tracker.
-/
structure Recorded (wiring : Wiring) (calls : List DrainCall)
    (queue : List OrderRequest) (tracker : OrderLifecycleTracker) :
    Prop where
  attached :
    wiring.lifecycleTracker = true →
      (idsOf calls queue).Nodup ∧
        Holds OrderLifecycleRecord.sequenceId (recordsOf calls queue)
          tracker.records
  detached : wiring.lifecycleTracker = false → tracker.records = ∅

namespace Recorded

variable {calls : List DrainCall} {queue : List OrderRequest}
  {tracker : OrderLifecycleTracker}

theorem empty (tracker : OrderLifecycleTracker)
    (records : tracker.records = ∅) : Recorded wiring [] [] tracker where
  attached _ := by
    rw [records]
    exact ⟨List.nodup_nil, Holds.empty⟩
  detached _ := records

/-- Only the records of the tracker matter. -/
theorem congr (recorded : Recorded wiring calls queue tracker)
    {other : OrderLifecycleTracker}
    (same : other.records = tracker.records) :
    Recorded wiring calls queue other where
  attached attached := by
    rw [same]
    exact recorded.attached attached
  detached detached := same.trans (recorded.detached detached)

/-- The order at the head of the queue has the record of a queued order. -/
theorem waiting {order : OrderRequest} {rest : List OrderRequest}
    (recorded : Recorded wiring calls (order :: rest) tracker) :
    Waiting wiring tracker order.sequenceId (queuedRecord order) where
  found attached := by
    apply ((recorded.attached attached).2 _ _).mpr
    exact ⟨by simp [recordsOf], rfl⟩
  queued _ := rfl

/-- A new order joins the queue, with its record. -/
theorem join (recorded : Recorded wiring calls queue tracker)
    {order : OrderRequest}
    (unknown :
      wiring.lifecycleTracker = true →
        order.sequenceId ∉ tracker.records) :
    Recorded wiring calls (queue ++ [order])
      (if wiring.lifecycleTracker then enqueued tracker order.sequenceId
      else tracker) where
  attached attached := by
    rcases recorded.attached attached with ⟨distinct, holds⟩
    have unused := unknown attached
    have ids :
        idsOf calls (queue ++ [order]) =
          idsOf calls queue ++ [order.sequenceId] := by
      simp [idsOf]
    have records :
        recordsOf calls (queue ++ [order]) =
          recordsOf calls queue ++ [queuedRecord order] := by
      simp [recordsOf]
    have inserted :
        (enqueued tracker order.sequenceId).records =
          tracker.records.insert order.sequenceId (queuedRecord order) := by
      simp only [enqueued, marked, registered, Finmap.insert_insert]
      rfl
    rw [if_pos attached, ids, records, inserted]
    constructor
    · rw [holds.mem_iff, map_sequenceId_recordsOf] at unused
      rw [← List.concat_eq_append]
      exact distinct.concat unused
    · have absent : (queuedRecord order).sequenceId ∉ tracker.records :=
        unused
      exact holds.insert absent
  detached detached := by
    rw [detached]
    exact recorded.detached detached

/-- The order at the head of the queue is drained and its record settled. -/
theorem settle {call : DrainCall} {rest : List OrderRequest}
    (recorded : Recorded wiring calls (call.order :: rest) tracker)
    {other : OrderLifecycleTracker}
    (records :
      other.records =
        if wiring.lifecycleTracker then
          tracker.records.insert call.order.sequenceId (settledRecord call)
        else tracker.records) :
    Recorded wiring (calls ++ [call]) rest other where
  attached attached := by
    rcases recorded.attached attached with ⟨distinct, holds⟩
    have ids :
        idsOf (calls ++ [call]) rest = idsOf calls (call.order :: rest) := by
      simp [idsOf]
    have settled :
        recordsOf (calls ++ [call]) rest =
          calls.map settledRecord ++
            settledRecord call :: rest.map queuedRecord := by
      simp [recordsOf]
    have key := settledRecord_sequenceId call
    rw [records, if_pos attached, ids, settled, ← key]
    refine ⟨distinct, holds.replace ?_ key⟩
    rw [← List.map_cons, ← recordsOf, map_sequenceId_recordsOf]
    exact distinct
  detached detached := by
    rw [records, if_neg (by simp [detached])]
    exact recorded.detached detached

end Recorded

/-! ## One call -/

/-- The state after an order was turned away behind the risk check. -/
def turnedAwaySystem (wiring : Wiring) (system : System capacity)
    (order : OrderRequest) (record : OrderLifecycleRecord) :
    System capacity :=
  { system with
    gateway :=
      if wiring.gateway then
        countSubmission (turnedAway order) system.gateway
      else system.gateway
    lifecycleTracker :=
      if wiring.lifecycleTracker then
        completed system.lifecycleTracker order.sequenceId record .sent
          (.exchangeRejected .invalidSymbol)
      else system.lifecycleTracker
    pipeline := countGatewayReject system.pipeline }

theorem sendOrder_of_noExchange {venue : Venue} {gateway : GatewayWiring}
    (absent : gateway.exchange = false) (request : OrderRequest) :
    sendOrder gateway venue request =
      (turnedAway request,
        { venue with
          gateway :=
            countSubmission (turnedAway request) venue.gateway }) := by
  simp only [sendOrder, absent, Bool.not_false, if_true]
  rfl

/-- A waiting order that reaches `dispatch` is marked twice. -/
theorem dispatch_of_unreachable
    {order : OrderRequest} {record : OrderLifecycleRecord}
    (unreachable : Unreachable wiring)
    (waiting :
      Waiting wiring system.lifecycleTracker order.sequenceId record)
    (unknown :
      wiring.lifecycleTracker = false →
        system.lifecycleTracker.stateOf order.sequenceId = none) :
    dispatch wiring system order =
      (passedOutcome wiring order,
        turnedAwaySystem wiring system order record) := by
  have sent := waiting.legal .sent rfl rfl
  have ok :
      (track wiring.lifecycleTracker order.sequenceId .sent
        system.lifecycleTracker).1 = true := by
    cases attached : wiring.lifecycleTracker with
    | false => rfl
    | true => simp [track, applyMark_of_legal (sent attached)]
  have state :
      (markedIf wiring.lifecycleTracker system.lifecycleTracker
          order.sequenceId record .sent).stateOf order.sequenceId =
        if wiring.lifecycleTracker then some .sent else none := by
    cases attached : wiring.lifecycleTracker with
    | false => simp [markedIf, unknown attached]
    | true =>
        simp only [markedIf, if_true, stateOf_marked, Function.update_self]
        rfl
  have legal :
      wiring.lifecycleTracker = true →
        Legal
          (markedIf wiring.lifecycleTracker system.lifecycleTracker
            order.sequenceId record .sent)
          order.sequenceId (Mark.sent.moved record)
          (.exchangeRejected .invalidSymbol) := by
    intro attached
    constructor
    · simp only [markedIf, attached, if_true]
      exact Finmap.lookup_insert _
    · rw [Mark.moved_state]
      rfl
    · rfl
  cases gateway : wiring.gateway with
  | false =>
      simp only [dispatch, gateway, Bool.not_false, if_true,
        notify_of_legal record sent]
      rw [notify_of_legal (Mark.sent.moved record) legal]
      cases attached : wiring.lifecycleTracker <;>
        simp [passedOutcome, turnedAwaySystem, gateway, attached, markedIf,
          completed]
  | true =>
      have absent : wiring.venue.exchange = false :=
        unreachable.resolve_left (by simp [gateway])
      simp only [dispatch, gateway, Bool.not_true, Bool.false_eq_true,
        if_false, ok, notify_of_legal record sent,
        sendOrder_of_noExchange absent, state]
      have mark :
          responseMark (turnedAway order) =
            .exchangeRejected .invalidSymbol := rfl
      rw [mark, notify_of_legal (Mark.sent.moved record) legal]
      cases attached : wiring.lifecycleTracker <;>
        simp [passedOutcome, turnedAwaySystem, gateway, attached, markedIf,
          completed, turnedAway]

/-- The gateway after an action that was not carried out. -/
def countRefusal {Response : Type} (wiring : Wiring)
    (path : ActionPath Response) (gateway : OrderGateway) : OrderGateway :=
  path.countRejected
    (if wiring.venue.lifecycleTracker then
      countError (path.countSent gateway)
    else path.countSent gateway)

theorem closedGateway_cancelled (past : List Observation)
    (request : CancelRequest) (response : CancelResponse) :
    closedGateway wiring (past ++ [.cancelled request response]) =
      countRefusal wiring (cancelPath request)
        (closedGateway wiring past) := by
  have unseen : Unseen (.cancelled request response) :=
    unseen_of_action rfl
  cases attached : wiring.venue.lifecycleTracker <;>
    simp [closedGateway, countRefusal, countError, cancelPath,
      passedCount_concat, cancelCount_concat, amendCount_concat,
      unseen.passed, attached, Nat.add_right_comm]

theorem closedGateway_amended (past : List Observation)
    (request : AmendRequest) (response : AmendResponse) :
    closedGateway wiring (past ++ [.amended request response]) =
      countRefusal wiring (amendPath request)
        (closedGateway wiring past) := by
  have unseen : Unseen (.amended request response) :=
    unseen_of_action rfl
  cases attached : wiring.venue.lifecycleTracker <;>
    simp [closedGateway, countRefusal, countError, amendPath,
      passedCount_concat, cancelCount_concat, amendCount_concat,
      unseen.passed, attached, Nat.add_assoc]

/-- An action of which nothing is carried out, and what is seen of it. -/
structure Inert {Response : Type} (wiring : Wiring)
    (path : ActionPath Response) (seen : Observation) : Prop where
  cyclic : path.Cyclic
  inactive : path.execute {} = (path.noExchange, {})
  rejected : path.accepted path.noExchange = false
  action : isAction seen = true
  answer :
    ∀ capacity limits past, ClosedAnswer capacity wiring limits past seen
  reported :
    ∀ past,
      trackerError wiring (past, seen) =
        if wiring.venue.lifecycleTracker then
          some (actionError wiring past path.sequenceId)
        else none
  counted :
    ∀ past,
      closedGateway wiring (past ++ [seen]) =
        countRefusal wiring path (closedGateway wiring past)

theorem lookup_activeOrders_empty (sequenceId : UInt64) :
    ({} : ExchangeSimulator).activeOrders.lookup sequenceId = none :=
  Finmap.lookup_empty _

theorem cancelPath_inert (wiring : Wiring) (request : CancelRequest) :
    Inert wiring (cancelPath request)
      (.cancelled request (closedResponse wiring (cancelPath request))) where
  cyclic := cancelPath_cyclic request
  inactive :=
    ExchangeSimulator.cancelOrder_of_inactive (lookup_activeOrders_empty _)
  rejected := rfl
  action := rfl
  answer _ _ _ := rfl
  reported _ := rfl
  counted past := closedGateway_cancelled past request _

theorem amendPath_inert (wiring : Wiring) (request : AmendRequest) :
    Inert wiring (amendPath request)
      (.amended request (closedResponse wiring (amendPath request))) where
  cyclic := amendPath_cyclic request
  inactive :=
    ExchangeSimulator.amendOrder_of_inactive (lookup_activeOrders_empty _)
  rejected := rfl
  action := rfl
  answer _ _ _ := rfl
  reported _ := rfl
  counted past := closedGateway_amended past request _

/-! ## Runs -/

/-- What is left of a history of calls that reached no exchange. -/
structure FailsClosed (wiring : Wiring) (limits : RiskLimits)
    (journal : Bool) (history : List Observation)
    (system : System capacity) : Prop where
  answers :
    ∀ seen ∈ withPast [] history,
      ClosedAnswer capacity wiring limits seen.1 seen.2
  queue :
    takenIn history =
      (drainCalls history).map DrainCall.order ++
        system.pipeline.buffer.contents
  exchange : system.exchange = {}
  gateway : system.gateway = closedGateway wiring history
  riskManager : system.riskManager = closedManager wiring limits history
  pipeline :
    system.pipeline =
      closedPipeline wiring history system.pipeline.buffer
  tracker :
    TrackerAccounts wiring journal history system.lifecycleTracker
  recorded :
    Recorded wiring (drainCalls history) system.pipeline.buffer.contents
      system.lifecycleTracker

namespace FailsClosed

theorem start (limits : RiskLimits) (journal : Bool) :
    FailsClosed wiring limits journal []
      (fresh limits journal : System capacity) where
  answers := by simp [withPast]
  queue := rfl
  exchange := rfl
  gateway := by
    simp [fresh, closedGateway, passedCount, cancelCount, amendCount,
      drainCalls]
  riskManager := by
    simp [fresh, closedManager, passedCount, riskRefusals, drainCalls,
      PreTradeRiskManager.ofLimits]
  pipeline := by
    simp [fresh, closedPipeline, passedCount, riskRefusals, drainCalls,
      takenIn, countWithPast, withPast]
  tracker := .empty _ rfl
  recorded := .empty _ rfl

/-- The answer to one more call is remembered. -/
theorem answers_concat
    (closed : FailsClosed wiring limits journal history system)
    {seen : Observation}
    (answer : ClosedAnswer capacity wiring limits history seen) :
    ∀ other ∈ withPast [] (history ++ [seen]),
      ClosedAnswer capacity wiring limits other.1 other.2 := by
  rw [withPast_concat, List.forall_mem_append, List.forall_mem_singleton]
  exact ⟨closed.answers, answer⟩

/-- What waits was taken in and not drained. -/
theorem waitingCount_eq
    (closed : FailsClosed wiring limits journal history system) :
    waitingCount history = system.pipeline.buffer.contents.length := by
  rw [waitingCount, closed.queue, List.length_append, List.length_map]
  exact Nat.add_sub_cancel_left _ _

/-- The tracker knows the orders that were taken in. -/
theorem known_iff
    (closed : FailsClosed wiring limits journal history system)
    (sequenceId : UInt64) :
    known wiring history sequenceId = true ↔
      wiring.lifecycleTracker = true ∧
        sequenceId ∈ system.lifecycleTracker.records := by
  rw [known, Bool.and_eq_true]
  apply and_congr_right
  intro attached
  rw [(closed.recorded.attached attached).2.mem_iff,
    map_sequenceId_recordsOf, idsOf, closed.queue, List.map_append,
    List.map_map, List.contains_iff_mem]
  rfl

/-- An order that is not taken in changes a counter of the pipeline. -/
theorem refusedOffer
    (closed : FailsClosed wiring limits journal history system)
    {request : OrderRequest} {pipeline : OrderPipeline capacity}
    (answer :
      ClosedAnswer capacity wiring limits history
        (.enqueued request false))
    (counted :
      pipeline =
        closedPipeline wiring (history ++ [.enqueued request false])
          system.pipeline.buffer) :
    FailsClosed wiring limits journal
      (history ++ [.enqueued request false])
      { system with pipeline := pipeline } := by
  subst counted
  constructor
  · exact closed.answers_concat answer
  · rw [takenIn_concat, takenIn_refused, List.append_nil,
      drainCalls_concat, drainCalls_enqueued, List.append_nil]
    exact closed.queue
  · exact closed.exchange
  · exact closed.gateway.trans (closedGateway_enqueued false).symm
  · exact closed.riskManager.trans (closedManager_enqueued false).symm
  · rfl
  · exact closed.tracker.unoffered request
  · rw [drainCalls_concat, drainCalls_enqueued, List.append_nil]
    exact closed.recorded

/-- An order that is taken in waits, with a record. -/
theorem joined (closed : FailsClosed wiring limits journal history system)
    {request : OrderRequest}
    (unknown :
      wiring.lifecycleTracker = true →
        request.sequenceId ∉ system.lifecycleTracker.records)
    (answer :
      ClosedAnswer capacity wiring limits history (.enqueued request true))
    (room : system.pipeline.buffer.full = false) :
    FailsClosed wiring limits journal
      (history ++ [.enqueued request true])
      (joined wiring system request) := by
  constructor
  · exact closed.answers_concat answer
  · rw [takenIn_concat, drainCalls_concat, drainCalls_enqueued,
      List.append_nil, closed.queue]
    simp only [StepEffects.joined, RingBuffer.contents_push room]
    exact List.append_assoc _ _ _
  · exact closed.exchange
  · exact closed.gateway.trans (closedGateway_enqueued true).symm
  · exact closed.riskManager.trans (closedManager_enqueued true).symm
  · rw [closedPipeline_joined _ system.pipeline.buffer]
    simp only [StepEffects.joined]
    rw [closed.pipeline]
    rfl
  · exact closed.tracker.offered request
  · rw [drainCalls_concat, drainCalls_enqueued, List.append_nil]
    simp only [StepEffects.joined, RingBuffer.contents_push room]
    exact closed.recorded.join unknown

/-- A call of `Enqueue` adds an order that waits, or nothing. -/
theorem enqueue (closed : FailsClosed wiring limits journal history system)
    (request : OrderRequest) :
    FailsClosed wiring limits journal
      (history ++
        [.enqueued request (enqueue wiring system request).1])
      (Pipeline.enqueue wiring system request).2 := by
  have waiting := closed.waitingCount_eq
  rcases enqueue_cases wiring system request with
    ⟨attached, present⟩ | unknown
  · have found := (closed.known_iff _).mpr ⟨attached, present⟩
    rw [enqueue_of_known attached present]
    apply closed.refusedOffer
    · simp [ClosedAnswer, found]
    · rw [closedPipeline_refusedOffer _ found, closed.pipeline]
      rfl
  · have absent : known wiring history request.sequenceId = false := by
      rw [Bool.eq_false_iff, Ne, closed.known_iff]
      exact fun ⟨attached, present⟩ => unknown attached present
    cases room : system.pipeline.buffer.full with
    | true =>
        have filled := (RingBuffer.full_iff _).mp room
        rw [enqueue_of_full unknown room]
        apply closed.refusedOffer
        · simp [ClosedAnswer, waiting, filled]
        · rw [closedPipeline_droppedOffer _ absent, closed.pipeline]
          rfl
    | false =>
        have spare :
            system.pipeline.buffer.contents.length < capacity := by
          apply lt_of_le_of_ne (RingBuffer.length_contents_le _)
          rw [Ne, ← RingBuffer.full_iff, room]
          exact Bool.false_ne_true
        rw [enqueue_of_room unknown room]
        apply closed.joined unknown
        · simpa [ClosedAnswer, waiting, absent] using spare
        · exact room

/-- The manager decides what it was configured to decide. -/
theorem firstFailure
    (closed : FailsClosed wiring limits journal history system) :
    system.riskManager.firstFailure =
      (PreTradeRiskManager.ofLimits limits).firstFailure := by
  rw [closed.riskManager]
  rfl

/-- The manager refuses what it was configured to refuse. -/
theorem refuses (closed : FailsClosed wiring limits journal history system)
    {order : OrderRequest} {reason : RiskRejectReason}
    (refused : riskVerdict wiring limits order = some reason) :
    wiring.riskManager = true ∧
      system.riskManager.firstFailure order = some reason := by
  rw [riskVerdict, Option.ite_none_right_eq_some] at refused
  rw [closed.firstFailure]
  exact refused

/-- The manager lets through what it was configured to let through. -/
theorem passes (closed : FailsClosed wiring limits journal history system)
    {order : OrderRequest}
    (passed : riskVerdict wiring limits order = none)
    (checks : wiring.riskManager = true) :
    system.riskManager.firstFailure order = none := by
  rw [riskVerdict, if_pos checks] at passed
  rw [closed.firstFailure]
  exact passed

/-- Without a tracker no order has a state. -/
theorem stateOf_of_detached
    (closed : FailsClosed wiring limits journal history system)
    (detached : wiring.lifecycleTracker = false) (sequenceId : UInt64) :
    system.lifecycleTracker.stateOf sequenceId = none := by
  rw [stateOf_eq_none_iff, closed.recorded.detached detached]
  exact Finmap.notMem_empty

/-- What was taken in stays, when the head of the queue is drained. -/
theorem queue_settle
    (closed : FailsClosed wiring limits journal history system)
    {call : DrainCall} {rest : List OrderRequest}
    (queue : system.pipeline.buffer.contents = call.order :: rest) :
    takenIn (history ++ [.drained call]) =
      (drainCalls (history ++ [.drained call])).map DrainCall.order ++
        rest := by
  rw [takenIn_concat, takenIn_drained, drainCalls_concat,
    drainCalls_drained, closed.queue, queue, List.append_nil,
    List.map_append, List.append_assoc]
  rfl

/-- The record of the head of the queue is settled. -/
theorem recorded_settle
    (closed : FailsClosed wiring limits journal history system)
    {call : DrainCall} {rest : List OrderRequest}
    {tracker : OrderLifecycleTracker}
    (queue : system.pipeline.buffer.contents = call.order :: rest)
    (records :
      tracker.records =
        if wiring.lifecycleTracker then
          system.lifecycleTracker.records.insert call.order.sequenceId
            (settledRecord call)
        else system.lifecycleTracker.records) :
    Recorded wiring (drainCalls (history ++ [.drained call])) rest
      tracker := by
  have recorded := closed.recorded
  rw [queue] at recorded
  rw [drainCalls_concat]
  exact recorded.settle records

/-- An order that fails the risk check is settled. -/
theorem refusedByRisk
    (closed : FailsClosed wiring limits journal history system)
    {order : OrderRequest} {rest : List OrderRequest}
    (queue : system.pipeline.buffer.contents = order :: rest)
    {reason : RiskRejectReason}
    (failure : riskVerdict wiring limits order = some reason) :
    FailsClosed wiring limits journal
      (history ++
        [.drained { order := order, outcome := .riskRejected reason }])
      (refusedByRisk wiring (popped system (restBuffer system)) order
        (queuedRecord order) reason) := by
  have waiting := contents_restBuffer queue
  have checks := (closed.refuses failure).1
  have refused :
      riskReason { order := order, outcome := .riskRejected reason } =
        some reason := rfl
  have answer :
      ClosedAnswer capacity wiring limits history
        (.drained { order := order, outcome := .riskRejected reason }) := by
    simp only [ClosedAnswer, closedOutcome, failure]
  constructor
  · exact closed.answers_concat answer
  · exact (closed.queue_settle queue).trans (by rw [← waiting]; rfl)
  · exact closed.exchange
  · exact closed.gateway.trans (closedGateway_refused refused).symm
  · rw [closedManager_refused refused checks, ← closed.riskManager]
    rfl
  · rw [closedPipeline_refused _ system.pipeline.buffer refused]
    simp only [StepEffects.refusedByRisk, popped]
    rw [closed.pipeline]
    rfl
  · exact closed.tracker.refused refused (queuedRecord order)
  · have remaining :
        (StepEffects.refusedByRisk wiring
            (popped system (restBuffer system)) order (queuedRecord order)
            reason).pipeline.buffer.contents =
          rest := waiting
    rw [remaining]
    apply closed.recorded_settle queue
    cases attached : wiring.lifecycleTracker with
    | false => simp [StepEffects.refusedByRisk, popped, markedIf, attached]
    | true =>
        simp only [StepEffects.refusedByRisk, popped, markedIf, attached]
        rfl

/-- An order that passes the risk check is turned away and settled. -/
theorem turnedAway
    (closed : FailsClosed wiring limits journal history system)
    {order : OrderRequest} {rest : List OrderRequest}
    (queue : system.pipeline.buffer.contents = order :: rest)
    (verdict : riskVerdict wiring limits order = none) :
    FailsClosed wiring limits journal
      (history ++
        [.drained
          { order := order, outcome := passedOutcome wiring order }])
      (turnedAwaySystem wiring
        { popped system (restBuffer system) with
          riskManager := passedManager wiring system.riskManager }
        order (queuedRecord order)) := by
  have waiting := contents_restBuffer queue
  have passes :
      riskReason
          { order := order, outcome := passedOutcome wiring order } =
        none := by
    cases gateway : wiring.gateway <;>
      simp only [riskReason, passedOutcome, gateway] <;>
      rfl
  have answer :
      ClosedAnswer capacity wiring limits history
        (.drained
          { order := order, outcome := passedOutcome wiring order }) := by
    simp only [ClosedAnswer, closedOutcome, verdict]
  constructor
  · exact closed.answers_concat answer
  · exact (closed.queue_settle queue).trans (by rw [← waiting]; rfl)
  · exact closed.exchange
  · have rejected : (Disconnected.turnedAway order).accepted = false := rfl
    rw [closedGateway_passed passes rejected, ← closed.gateway]
    rfl
  · exact
      (congrArg (passedManager wiring) closed.riskManager).trans
        (closedManager_passed passes).symm
  · rw [closedPipeline_passed _ system.pipeline.buffer passes]
    simp only [turnedAwaySystem, popped]
    rw [closed.pipeline]
    rfl
  · exact closed.tracker.passed passes (queuedRecord order)
  · have remaining :
        (turnedAwaySystem wiring
            { popped system (restBuffer system) with
              riskManager := passedManager wiring system.riskManager }
            order (queuedRecord order)).pipeline.buffer.contents =
          rest := waiting
    have settled :
        settledRecord
            { order := order, outcome := passedOutcome wiring order } =
          (Mark.exchangeRejected .invalidSymbol).moved
            (Mark.sent.moved (queuedRecord order)) := by
      cases gateway : wiring.gateway <;>
        simp only [settledRecord, passedOutcome, gateway] <;>
        rfl
    rw [remaining]
    apply closed.recorded_settle queue
    rw [settled]
    cases attached : wiring.lifecycleTracker <;>
      simp [turnedAwaySystem, popped, completed, marked, attached]

/-- An iteration of `Drain` settles the first order of the queue. -/
theorem drainOrder
    (closed : FailsClosed wiring limits journal history system)
    (unreachable : Unreachable wiring)
    {order : OrderRequest} {rest : List OrderRequest}
    (queue : system.pipeline.buffer.contents = order :: rest) :
    FailsClosed wiring limits journal
      (history ++
        [.drained
          { order := order
            outcome :=
              (drainOrder wiring (popped system (restBuffer system))
                order).1 }])
      (Pipeline.drainOrder wiring (popped system (restBuffer system))
        order).2 := by
  have recorded := closed.recorded
  rw [queue] at recorded
  have waiting := recorded.waiting
  cases decided : riskVerdict wiring limits order with
  | some reason =>
      rcases closed.refuses decided with ⟨checks, failure⟩
      have refused :
          Pipeline.drainOrder wiring (popped system (restBuffer system))
              order =
            (.riskRejected reason, _) :=
        drainOrder_of_failure checks failure waiting
      rw [refused]
      exact closed.refusedByRisk queue decided
  | none =>
      have passed :
          Pipeline.drainOrder wiring (popped system (restBuffer system))
              order =
            dispatch wiring
              { popped system (restBuffer system) with
                riskManager := passedManager wiring system.riskManager }
              order :=
        drainOrder_of_pass (closed.passes decided)
      have result :
          dispatch wiring
              { popped system (restBuffer system) with
                riskManager := passedManager wiring system.riskManager }
              order =
            (passedOutcome wiring order, _) :=
        dispatch_of_unreachable unreachable waiting fun detached =>
          closed.stateOf_of_detached detached _
      rw [passed, result]
      exact closed.turnedAway queue decided

/-- A whole drain settles the whole queue. -/
theorem drainTrace
    (closed : FailsClosed wiring limits journal history system)
    (unreachable : Unreachable wiring) {calls : List DrainCall}
    (trace : DrainTrace wiring system calls next) :
    FailsClosed wiring limits journal (history ++ calls.map .drained)
      next := by
  induction trace generalizing history with
  | done _ => rwa [List.map_nil, List.append_nil]
  | step head _ induction =>
      rcases drainStep_inv head with ⟨rest, queue, _, processed⟩
      have first := closed.drainOrder unreachable queue
      rw [processed] at first
      have later := induction first
      rwa [List.append_assoc, List.singleton_append] at later

/-- The tracker of the gateway stops an action, or else its other end. -/
theorem sendAction
    (closed : FailsClosed wiring limits journal history system)
    {Response : Type} {path : ActionPath Response} {seen : Observation}
    (inert : Inert wiring path seen) :
    sendAction wiring.venue system.toVenue path =
      (closedResponse wiring path,
        { gateway := countRefusal wiring path system.gateway
          exchange := system.exchange
          lifecycleTracker :=
            if wiring.venue.lifecycleTracker then
              failed system.lifecycleTracker
                (actionError wiring history path.sequenceId)
            else system.lifecycleTracker }) := by
  cases attached : wiring.venue.lifecycleTracker with
  | false =>
      have unexecuted :
          executed wiring.venue path system.exchange =
            (path.noExchange, system.exchange) := by
        rw [closed.exchange, executed, inert.inactive]
        exact ite_self _
      rw [sendAction_of_untracked attached, unexecuted]
      simp [closedResponse, countRefusal, attached,
        ActionPath.countResponse, inert.rejected]
  | true =>
      have refused :
          applyMark system.lifecycleTracker path.sequenceId
              path.pendingMark =
            (false,
              failed system.lifecycleTracker
                (actionError wiring history path.sequenceId)) := by
        rw [actionError]
        split_ifs with found
        · rcases (closed.known_iff _).mp found with ⟨recorded, present⟩
          rcases Finmap.mem_iff.mp present with ⟨record, held⟩
          apply applyMark_of_wrong_state held
          rw [inert.cyclic.pendingSource]
          have listed :=
            ((closed.recorded.attached recorded).2 _ _).mp held
          exact recordsOf_state listed.1
        · apply applyMark_of_unknown inert.cyclic.pendingReason
          apply Finmap.lookup_eq_none.mpr
          intro present
          cases recorded : wiring.lifecycleTracker with
          | false =>
              rw [closed.recorded.detached recorded] at present
              exact Finmap.notMem_empty present
          | true =>
              exact found
                ((closed.known_iff _).mpr ⟨recorded, present⟩)
      rw [sendAction_of_refused attached refused]
      simp [closedResponse, countRefusal, attached]

/-- An action changes counters only. -/
theorem action (closed : FailsClosed wiring limits journal history system)
    {Response : Type} {path : ActionPath Response} {seen : Observation}
    (inert : Inert wiring path seen) :
    FailsClosed wiring limits journal (history ++ [seen])
      { system with
        toVenue :=
          (Gateway.sendAction wiring.venue system.toVenue path).2 } := by
  have unseen := unseen_of_action inert.action
  rw [closed.sendAction inert]
  constructor
  · exact closed.answers_concat (inert.answer _ _ _)
  · rw [takenIn_concat, unseen.taken, List.append_nil, drainCalls_concat,
      unseen.drained, List.append_nil]
    exact closed.queue
  · exact closed.exchange
  · rw [inert.counted, ← closed.gateway]
  · exact closed.riskManager.trans
      (closedManager_action inert.action).symm
  · exact closed.pipeline.trans
      (closedPipeline_action inert.action _).symm
  · exact closed.tracker.action inert.action (inert.reported _)
  · rw [drainCalls_concat, unseen.drained, List.append_nil]
    apply closed.recorded.congr
    cases wiring.venue.lifecycleTracker <;> rfl

/-- The step lemma: every call fails closed. -/
theorem step (closed : FailsClosed wiring limits journal history system)
    (unreachable : Unreachable wiring) (call : Call) :
    FailsClosed wiring limits journal
      (history ++ observations call (step wiring system call).1)
      (System.step wiring system call).2 := by
  cases call with
  | enqueue request => exact closed.enqueue request
  | drain =>
      exact closed.drainTrace unreachable (drain_trace wiring system).1
  | sendCancel request =>
      have inert := cancelPath_inert wiring request
      have sent := closed.action inert
      rw [closed.sendAction inert] at sent
      simp only [System.step, observations, sendCancel,
        closed.sendAction inert]
      exact sent
  | sendAmend request =>
      have inert := amendPath_inert wiring request
      have sent := closed.action inert
      rw [closed.sendAction inert] at sent
      simp only [System.step, observations, sendAmend,
        closed.sendAction inert]
      exact sent

end FailsClosed

/--
In every run of a pipeline that can reach no exchange, the history of the calls
determines every answer, every counter and the journal: nothing is accepted,
and the tracker has the records of the orders that were drained and of those
that wait.
-/
theorem run_disconnected (capacity : ℕ+) {wiring : Wiring}
    (unreachable : Unreachable wiring) (limits : RiskLimits)
    (journal : Bool) (calls : List Call) :
    FailsClosed wiring limits journal
      (observedFresh capacity wiring limits journal calls)
      (runFresh wiring limits journal calls : System capacity) := by
  induction calls using List.reverseRecOn with
  | nil => exact .start limits journal
  | append_singleton calls last induction =>
      rw [observedFresh, observed_concat, runFresh,
        TransitionRun.run_concat]
      exact induction.step unreachable last

/-- All pointers are set but the one to the exchange. -/
def withoutExchange : Wiring where
  venue := { exchange := false, lifecycleTracker := true }
  gateway := true
  riskManager := true
  lifecycleTracker := true

/-- Two orders, one of which is sent again and then cancelled. -/
theorem run_disconnected_withoutExchange :
    let calls : List Call :=
      [.enqueue { sequenceId := 1 }, .enqueue { sequenceId := 2 }, .drain,
        .enqueue { sequenceId := 1 }, .sendCancel { sequenceId := 1 }]
    FailsClosed withoutExchange {} true
      (observedFresh 2 withoutExchange {} true calls)
      (runFresh withoutExchange {} true calls : System 2) :=
  run_disconnected 2 (Or.inr rfl) {} true _

end Llgw.Disconnected
