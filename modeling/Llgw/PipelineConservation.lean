import Llgw.StepEffects

/-!
# Conservation of orders in the pipeline

Whichever of the pointers of a pipeline are null, and whatever else is called
on its tracker, its gateway and its exchange in between, every order that is
offered is counted once, leaves the buffer in the order in which it entered,
and is passed to `SendOrder` once, unless the risk check refuses it or there
is no gateway.
-/

namespace Llgw.PipelineConservation

open Llgw.Foundation.TransitionRun
open Llgw.Messages
open Llgw.Buffer
open Llgw.Risk
open Llgw.Exchange
open Llgw.Lifecycle
open Llgw.LifecycleMarks
open Llgw.Gateway
open Llgw.Pipeline
open Llgw.StepEffects

variable {capacity : ℕ+}

/-! ## Calls -/

/-- Calls by others on the tracker, the gateway and the exchange. -/
inductive VenueCall where
  | tracker (call : TrackerCall)
  | sendOrder (request : OrderRequest)
  | sendCancel (request : CancelRequest)
  | sendAmend (request : AmendRequest)
  | submitOrder (request : OrderRequest)
  | cancelOrder (request : CancelRequest)
  | amendOrder (request : AmendRequest)
deriving DecidableEq

/-- The venue after a call by others. -/
def venueStep (wiring : GatewayWiring) (venue : Venue) :
    VenueCall → Venue
  | .tracker call =>
      { venue with
        lifecycleTracker := (trackerStep venue.lifecycleTracker call).2 }
  | .sendOrder request => (sendOrder wiring venue request).2
  | .sendCancel request => (sendCancel wiring venue request).2
  | .sendAmend request => (sendAmend wiring venue request).2
  | .submitOrder request =>
      { venue with exchange := (venue.exchange.submitOrder request).2 }
  | .cancelOrder request =>
      { venue with exchange := (venue.exchange.cancelOrder request).2 }
  | .amendOrder request =>
      { venue with exchange := (venue.exchange.amendOrder request).2 }

inductive PipelineCall where
  | enqueue (request : OrderRequest)
  | drain
  | venue (call : VenueCall)
deriving DecidableEq

/-- What the pipeline returns, with the iterations of a drain. -/
inductive PipelineReply where
  | enqueued (accepted : Bool)
  | drained (drainedNow : Nat) (calls : List DrainCall)
  | venue
deriving DecidableEq

/-- One call on the pipeline, or by others on what it is wired to. -/
def pipelineStep (wiring : Wiring) (system : System capacity) :
    PipelineCall → PipelineReply × System capacity
  | .enqueue request =>
      let result := enqueue wiring system request
      (.enqueued result.1, result.2)
  | .drain =>
      let result := drain wiring system
      (.drained result.drainedNow result.calls, result.system)
  | .venue call =>
      (.venue,
        { system with toVenue := venueStep wiring.venue system.toVenue call })

/-- A new pipeline among objects in any state. -/
def newPipeline (venue : Venue) (manager : PreTradeRiskManager) :
    System capacity where
  toVenue := venue
  riskManager := manager

/-! ## Histories -/

abbrev History (capacity : ℕ+) :=
  List (Event (System capacity) PipelineCall PipelineReply)

/-- The orders of the `Enqueue` calls that a call makes. -/
def offeredBy : PipelineCall → List OrderRequest
  | .enqueue request => [request]
  | _ => []

/-- The orders of the `Enqueue` calls that succeed. -/
def enqueuedBy : PipelineCall → PipelineReply → List OrderRequest
  | .enqueue request, .enqueued true => [request]
  | _, _ => []

@[simp]
theorem enqueuedBy_refused (request : OrderRequest) :
    enqueuedBy (.enqueue request) (.enqueued false) = [] := rfl

@[simp]
theorem enqueuedBy_accepted (request : OrderRequest) :
    enqueuedBy (.enqueue request) (.enqueued true) = [request] := rfl

/-- The iterations of `Drain` that a reply reports. -/
def drainedBy : PipelineReply → List DrainCall
  | .drained _ calls => calls
  | _ => []

/-- The orders that were offered to `Enqueue`. -/
def offeredOrders (history : History capacity) : List OrderRequest :=
  history.flatMap fun event => offeredBy event.input

/-- The orders that were enqueued. -/
def enqueuedOrders (history : History capacity) : List OrderRequest :=
  history.flatMap fun event => enqueuedBy event.input event.output

/-- The iterations of all drains. -/
def drainCalls (history : History capacity) : List DrainCall :=
  history.flatMap fun event => drainedBy event.output

/-- The orders that were popped by a drain. -/
def drainedOrders (history : History capacity) : List OrderRequest :=
  (drainCalls history).map DrainCall.order

/-- Whether an iteration passed its order to `SendOrder`. -/
def isDispatched (call : DrainCall) : Bool :=
  match call.outcome with
  | .dispatched _ _ _ => true
  | _ => false

/-- The orders that were passed to `SendOrder`. -/
def dispatchedOrders (history : History capacity) : List OrderRequest :=
  ((drainCalls history).filter isDispatched).map DrainCall.order

/-- The orders that others pass to `SendOrder`. -/
def sentByOthers : PipelineCall → List OrderRequest
  | .venue (.sendOrder request) => [request]
  | _ => []

/-- The orders that others passed to `SendOrder`. -/
def othersOrders (history : History capacity) : List OrderRequest :=
  history.flatMap fun event => sentByOthers event.input

/-- There is a gateway, and the risk check, if there is one, accepts. -/
def reachesGateway (wiring : Wiring) (manager : PreTradeRiskManager)
    (order : OrderRequest) : Bool :=
  wiring.gateway && (!wiring.riskManager || manager.accepts order)

/-! ## What an iteration counts -/

/-- The counting of an iteration, by its outcome. -/
def countCall (outcome : DrainOutcome) (pipeline : OrderPipeline capacity) :
    OrderPipeline capacity :=
  match outcome with
  | .riskRejected reason => countRiskReject reason pipeline
  | .noGateway => countGatewayReject pipeline
  | .dispatched _ _ response => countOutcome response pipeline

/-- A pipeline without its count of lifecycle transition errors. -/
def withoutErrors (pipeline : OrderPipeline capacity) :
    OrderPipeline capacity :=
  { pipeline with lifecycleTransitionErrors := 0 }

section Iteration

variable (wiring : Wiring) (system : System capacity)

theorem notify_withoutErrors (sequenceId : UInt64) (mark : Mark) :
    withoutErrors (notify wiring system sequenceId mark).pipeline =
      withoutErrors system.pipeline := by
  simp only [notify]
  split_ifs <;> rfl

@[simp]
theorem notify_riskManager (sequenceId : UInt64) (mark : Mark) :
    (notify wiring system sequenceId mark).riskManager =
      system.riskManager := rfl

/-- Counting does not look at the lifecycle transition errors. -/
theorem countCall_withoutErrors (outcome : DrainOutcome)
    (left right : OrderPipeline capacity)
    (same : withoutErrors left = withoutErrors right) :
    withoutErrors (countCall outcome left) =
      withoutErrors (countCall outcome right) := by
  have counted (pipeline : OrderPipeline capacity) :
      withoutErrors (countCall outcome pipeline) =
        countCall outcome (withoutErrors pipeline) := by
    cases outcome with
    | riskRejected reason => rfl
    | noGateway => rfl
    | dispatched markSent state response =>
        simp only [countCall, countOutcome]
        split_ifs <;> rfl
  rw [counted, counted, same]

theorem dispatch_withoutErrors (order : OrderRequest) :
    withoutErrors (dispatch wiring system order).2.pipeline =
      withoutErrors
        (countCall (dispatch wiring system order).1 system.pipeline) := by
  have sent := notify_withoutErrors wiring system order.sequenceId .sent
  unfold dispatch
  split_ifs
  · rw [notify_withoutErrors]
    exact countCall_withoutErrors .noGateway _ _ sent
  · simp only [notify_withoutErrors]
    exact countCall_withoutErrors (.dispatched _ _ _) _ _ sent

/-- An iteration counts its outcome, and refused transitions apart from it. -/
theorem drainOrder_withoutErrors (order : OrderRequest) :
    withoutErrors (drainOrder wiring system order).2.pipeline =
      withoutErrors
        (countCall (drainOrder wiring system order).1 system.pipeline) := by
  simp only [drainOrder]
  split_ifs
  · rw [notify_withoutErrors]
    rfl
  · exact dispatch_withoutErrors wiring _ order
  · exact dispatch_withoutErrors wiring _ order

theorem dispatch_riskManager (order : OrderRequest) :
    (dispatch wiring system order).2.riskManager = system.riskManager := by
  unfold dispatch
  split_ifs <;> rfl

/-- An iteration does not change a decision of the risk manager. -/
theorem drainOrder_firstFailure (order : OrderRequest) :
    (drainOrder wiring system order).2.riskManager.firstFailure =
      system.riskManager.firstFailure := by
  cases checks : wiring.riskManager with
  | false =>
      simp only [drainOrder, checks, Bool.false_eq_true, if_false,
        dispatch_riskManager]
  | true =>
      simp only [drainOrder, checks, if_true,
        PreTradeRiskManager.check_eq]
      cases failure : system.riskManager.firstFailure order with
      | none =>
          simp only [Bool.not_true, Bool.false_eq_true, if_false,
            dispatch_riskManager]
          rfl
      | some reason =>
          simp only [Bool.not_false, if_true, notify_riskManager]
          exact PreTradeRiskManager.afterReject_firstFailure _ _

theorem dispatch_isDispatched (order : OrderRequest) :
    isDispatched
        { order := order
          outcome := (dispatch wiring system order).1 } =
      wiring.gateway := by
  unfold dispatch
  cases wiring.gateway <;> rfl

/-- An order is dispatched if there is a gateway and the check accepts. -/
theorem drainOrder_isDispatched (order : OrderRequest) :
    isDispatched
        { order := order
          outcome := (drainOrder wiring system order).1 } =
      reachesGateway wiring system.riskManager order := by
  cases checks : wiring.riskManager with
  | false =>
      simp only [drainOrder, checks, Bool.false_eq_true, if_false,
        dispatch_isDispatched, reachesGateway, Bool.not_false,
        Bool.true_or, Bool.and_true]
  | true =>
      simp only [drainOrder, checks, if_true, reachesGateway,
        PreTradeRiskManager.check_eq, PreTradeRiskManager.accepts,
        Bool.not_true, Bool.false_or]
      cases system.riskManager.firstFailure order with
      | none =>
          simp only [Bool.not_true, Bool.false_eq_true, if_false,
            dispatch_isDispatched, Option.isNone_none, Bool.and_true]
      | some reason =>
          simp only [Bool.not_false, if_true, Option.isNone_some,
            Bool.and_false]
          rfl

/-! ### Orders sent -/

/-- How many iterations passed their order to `SendOrder`. -/
def dispatchedCount (calls : List DrainCall) : Nat :=
  calls.countP isDispatched

/-- The gateway counts what is passed to `SendOrder`, whatever it answers. -/
theorem sendOrder_ordersSent (wiring : GatewayWiring) (venue : Venue)
    (request : OrderRequest) :
    (sendOrder wiring venue request).2.gateway.ordersSent =
      venue.gateway.ordersSent + 1 := by
  simp only [sendOrder]
  split_ifs <;> rfl

theorem dispatch_ordersSent (order : OrderRequest) :
    (dispatch wiring system order).2.gateway.ordersSent =
      system.gateway.ordersSent +
        dispatchedCount
          [{ order := order
             outcome := (dispatch wiring system order).1 }] := by
  unfold dispatch
  split_ifs
  · rfl
  · exact sendOrder_ordersSent wiring.venue _ order

/-- An iteration sends one order if it dispatches, and none otherwise. -/
theorem drainOrder_ordersSent (order : OrderRequest) :
    (drainOrder wiring system order).2.gateway.ordersSent =
      system.gateway.ordersSent +
        dispatchedCount
          [{ order := order
             outcome := (drainOrder wiring system order).1 }] := by
  simp only [drainOrder]
  split_ifs
  · rfl
  · exact dispatch_ordersSent wiring _ order
  · exact dispatch_ordersSent wiring _ order

end Iteration

theorem drainTrace_ordersSent {wiring : Wiring}
    {system final : System capacity} {calls : List DrainCall}
    (trace : DrainTrace wiring system calls final) :
    final.gateway.ordersSent =
      system.gateway.ordersSent + dispatchedCount calls := by
  induction trace with
  | done drained => rfl
  | @step system next final call calls head _ induction =>
      rcases drainStep_inv head with ⟨rest, queue, _, processed⟩
      have sent :=
        drainOrder_ordersSent wiring (popped system (restBuffer system))
          call.order
      rw [processed] at sent
      have count :
          dispatchedCount (call :: calls) =
            dispatchedCount [call] + dispatchedCount calls := by
        rw [← List.singleton_append]
        exact List.countP_append
      rw [induction, count, ← Nat.add_assoc]
      exact congrArg (· + dispatchedCount calls) sent

/-- A way to count that leaves the orders sent alone. -/
def KeepsSent (count : OrderGateway → OrderGateway) : Prop :=
  ∀ gateway, (count gateway).ordersSent = gateway.ordersSent

/-- A cancel or an amendment is not an order. -/
theorem sendAction_ordersSent {Response : Type} (wiring : GatewayWiring)
    (venue : Venue) (path : ActionPath Response)
    (sent : KeepsSent path.countSent)
    (accepted : KeepsSent path.countAccepted)
    (rejected : KeepsSent path.countRejected) :
    (sendAction wiring venue path).2.gateway.ordersSent =
      venue.gateway.ordersSent := by
  simp only [sendAction, countError]
  split_ifs <;> simp only [sent _, accepted _, rejected _]

/-- Of the calls by others only `SendOrder` sends an order. -/
theorem venueStep_ordersSent (wiring : GatewayWiring) (venue : Venue)
    (call : VenueCall) :
    (venueStep wiring venue call).gateway.ordersSent =
      venue.gateway.ordersSent + (sentByOthers (.venue call)).length := by
  cases call with
  | sendOrder request => exact sendOrder_ordersSent wiring venue request
  | sendCancel request =>
      exact
        sendAction_ordersSent wiring venue (cancelPath request)
          (fun _ => rfl) (fun _ => rfl) fun _ => rfl
  | sendAmend request =>
      exact
        sendAction_ordersSent wiring venue (amendPath request)
          (fun _ => rfl) (fun _ => rfl) fun _ => rfl
  | tracker | submitOrder | cancelOrder | amendOrder => rfl

/-- `Enqueue` sends nothing. -/
theorem enqueue_gateway (wiring : Wiring) (system : System capacity)
    (request : OrderRequest) :
    (enqueue wiring system request).2.gateway = system.gateway := by
  rcases enqueue_cases wiring system request with
    ⟨attached, known⟩ | unknown
  · rw [enqueue_of_known attached known]
    rfl
  · cases room : system.pipeline.buffer.full with
    | true =>
        rw [enqueue_of_full unknown room]
        rfl
    | false =>
        rw [enqueue_of_room unknown room]
        rfl

/-! ## Accounts -/

/--
The counters of a pipeline agree with the orders that were offered, those
that entered its buffer, those that left it, and those that left it and are
still to be answered.
-/
structure Accounts (offered : Nat) (entered left : List OrderRequest)
    (pending : Nat) (pipeline : OrderPipeline capacity) : Prop where
  offers :
    offered =
      pipeline.ordersEnqueued + pipeline.ordersDroppedOnEnqueue +
        pipeline.ordersRejectedByLifecycleOnEnqueue
  enters : pipeline.ordersEnqueued = entered.length
  queue : entered = left ++ pipeline.buffer.contents
  leaves : pipeline.ordersDrained = left.length
  answers :
    pipeline.ordersDrained =
      pipeline.ordersAccepted + pipeline.ordersRejected + pending
  rejects :
    pipeline.ordersRejected =
      pipeline.ordersRejectedByRisk + pipeline.ordersRejectedByGateway

namespace Accounts

variable {offered pending : Nat} {entered left : List OrderRequest}

theorem start : Accounts 0 [] [] 0 ({} : OrderPipeline capacity) where
  offers := rfl
  enters := rfl
  queue := rfl
  leaves := rfl
  answers := rfl
  rejects := rfl

/-- The lifecycle transition errors are on no account. -/
theorem of_withoutErrors {pipeline other : OrderPipeline capacity}
    (same : withoutErrors pipeline = withoutErrors other)
    (accounts : Accounts offered entered left pending other) :
    Accounts offered entered left pending pipeline := by
  have bare :
      Accounts offered entered left pending (withoutErrors other) :=
    { accounts with }
  rw [← same] at bare
  exact { bare with }

/-! ### Enqueue -/

section Enqueue

variable {system : System capacity}
  (accounts : Accounts offered entered left pending system.pipeline)
include accounts

theorem refusedAsKnown :
    Accounts (offered + 1) entered left pending
      (refusedAsKnown system).pipeline :=
  { accounts with
    offers := congrArg (· + 1) accounts.offers }

theorem dropped :
    Accounts (offered + 1) entered left pending
      (dropped system).pipeline :=
  { accounts with
    offers := by
      simp only [StepEffects.dropped, accounts.offers]
      omega }

theorem joined (room : system.pipeline.buffer.full = false)
    (wiring : Wiring) (request : OrderRequest) :
    Accounts (offered + 1) (entered ++ [request]) left pending
      (joined wiring system request).pipeline :=
  { accounts with
    offers := by
      simp only [StepEffects.joined, accounts.offers]
      omega
    enters := by
      rw [List.length_append]
      exact congrArg (· + 1) accounts.enters
    queue := by
      simp only [StepEffects.joined, RingBuffer.contents_push room]
      rw [← List.append_assoc, ← accounts.queue] }

/-- A pop takes the head of the queue, which is still to be answered. -/
theorem popped {order : OrderRequest} {rest : List OrderRequest}
    (queue : system.pipeline.buffer.contents = order :: rest) :
    Accounts offered entered (left ++ [order]) (pending + 1)
      (popped system (restBuffer system)).pipeline :=
  { accounts with
    queue := by
      simp only [Pipeline.popped, contents_restBuffer queue]
      rw [accounts.queue, queue, List.append_assoc]
      rfl
    leaves := by
      rw [List.length_append]
      exact congrArg (· + 1) accounts.leaves
    answers := congrArg (· + 1) accounts.answers }

end Enqueue

/-! ### Answers -/

section Answer

variable {pipeline : OrderPipeline capacity}
  (accounts : Accounts offered entered left (pending + 1) pipeline)
include accounts

theorem countAccept :
    Accounts offered entered left pending (countAccept pipeline) :=
  { accounts with
    answers := by
      simp only [Pipeline.countAccept, accounts.answers]
      omega }

theorem countGatewayReject :
    Accounts offered entered left pending (countGatewayReject pipeline) :=
  { accounts with
    answers := by
      simp only [Pipeline.countGatewayReject, accounts.answers]
      omega
    rejects := congrArg (· + 1) accounts.rejects }

theorem countRiskReject (reason : RiskRejectReason) :
    Accounts offered entered left pending
      (countRiskReject reason pipeline) :=
  { accounts with
    answers := by
      simp only [Pipeline.countRiskReject, accounts.answers]
      omega
    rejects := by
      simp only [Pipeline.countRiskReject, accounts.rejects]
      omega }

/-- Every outcome answers the order of the iteration. -/
theorem countCall (outcome : DrainOutcome) :
    Accounts offered entered left pending (countCall outcome pipeline) := by
  cases outcome with
  | riskRejected reason => exact accounts.countRiskReject reason
  | noGateway => exact accounts.countGatewayReject
  | dispatched markSent state response =>
      simp only [PipelineConservation.countCall, countOutcome]
      split_ifs
      · exact accounts.countAccept
      · exact accounts.countGatewayReject

end Answer

end Accounts

/-! ## Runs -/

/--
What holds along a run: the accounts, and that every iteration so far
dispatched its order as the risk manager would decide it now.
-/
structure Conserved (wiring : Wiring) (manager : PreTradeRiskManager)
    (offered : Nat) (entered : List OrderRequest) (calls : List DrainCall)
    (system : System capacity) : Prop where
  accounts :
    Accounts offered entered (calls.map DrainCall.order) 0 system.pipeline
  decisions : system.riskManager.firstFailure = manager.firstFailure
  dispatches :
    ∀ call ∈ calls,
      isDispatched call = reachesGateway wiring manager call.order

theorem reachesGateway_congr {manager other : PreTradeRiskManager}
    (same : manager.firstFailure = other.firstFailure) (wiring : Wiring)
    (order : OrderRequest) :
    reachesGateway wiring manager order =
      reachesGateway wiring other order := by
  simp only [reachesGateway, PreTradeRiskManager.accepts, same]

namespace Conserved

variable {wiring : Wiring} {manager : PreTradeRiskManager}
  {offered : Nat} {entered : List OrderRequest} {calls : List DrainCall}
  {system : System capacity}

/-- One iteration of a drain. -/
theorem drainStep
    (conserved : Conserved wiring manager offered entered calls system)
    {call : DrainCall} {next : System capacity}
    (head : drainStep wiring system = some (call, next)) :
    Conserved wiring manager offered entered (calls ++ [call]) next := by
  rcases drainStep_inv head with ⟨rest, queue, _, processed⟩
  have counted :=
    drainOrder_withoutErrors wiring (popped system (restBuffer system))
      call.order
  have decided :=
    drainOrder_firstFailure wiring (popped system (restBuffer system))
      call.order
  have dispatched :=
    drainOrder_isDispatched wiring (popped system (restBuffer system))
      call.order
  rw [processed] at counted decided dispatched
  constructor
  · rw [List.map_append]
    exact
      ((conserved.accounts.popped queue).countCall
        call.outcome).of_withoutErrors counted
  · exact decided.trans conserved.decisions
  · rw [List.forall_mem_append, List.forall_mem_singleton]
    refine ⟨conserved.dispatches, dispatched.trans ?_⟩
    exact reachesGateway_congr conserved.decisions wiring call.order

/-- A whole drain. -/
theorem drainTrace
    (conserved : Conserved wiring manager offered entered calls system)
    {later : List DrainCall} {final : System capacity}
    (trace : DrainTrace wiring system later final) :
    Conserved wiring manager offered entered (calls ++ later) final := by
  induction trace generalizing calls with
  | done drained =>
      rw [List.append_nil]
      exact conserved
  | step head _ induction =>
      rw [← List.singleton_append, ← List.append_assoc]
      exact induction (conserved.drainStep head)

/-- One call of `Enqueue`. -/
theorem enqueue
    (conserved : Conserved wiring manager offered entered calls system)
    (request : OrderRequest) :
    Conserved wiring manager (offered + 1)
      (entered ++
        enqueuedBy (.enqueue request)
          (pipelineStep wiring system (.enqueue request)).1)
      calls (pipelineStep wiring system (.enqueue request)).2 := by
  have accounts := conserved.accounts
  simp only [pipelineStep]
  rcases enqueue_cases wiring system request with
    ⟨attached, known⟩ | unknown
  · rw [enqueue_of_known attached known, enqueuedBy_refused,
      List.append_nil]
    exact { conserved with accounts := accounts.refusedAsKnown }
  · cases room : system.pipeline.buffer.full with
    | true =>
        rw [enqueue_of_full unknown room, enqueuedBy_refused,
          List.append_nil]
        exact { conserved with accounts := accounts.dropped }
    | false =>
        rw [enqueue_of_room unknown room, enqueuedBy_accepted]
        exact
          { conserved with accounts := accounts.joined room wiring request }

/-- Any call. -/
theorem pipelineStep
    (conserved : Conserved wiring manager offered entered calls system)
    (call : PipelineCall) :
    Conserved wiring manager (offered + (offeredBy call).length)
      (entered ++ enqueuedBy call (pipelineStep wiring system call).1)
      (calls ++ drainedBy (pipelineStep wiring system call).1)
      (pipelineStep wiring system call).2 := by
  cases call with
  | enqueue request =>
      have offer := conserved.enqueue request
      rw [← List.append_nil calls] at offer
      exact offer
  | drain =>
      have drained := conserved.drainTrace (drain_trace wiring system).1
      rw [← List.append_nil entered] at drained
      exact drained
  | venue call =>
      have untouched :
          Conserved wiring manager offered entered calls
            (PipelineConservation.pipelineStep wiring system
              (.venue call)).2 :=
        { conserved with }
      rw [← List.append_nil entered, ← List.append_nil calls] at untouched
      exact untouched

end Conserved

section History

variable (wiring : Wiring) (venue : Venue) (manager : PreTradeRiskManager)

theorem newPipeline_conserved :
    Conserved wiring manager 0 [] []
      (newPipeline venue manager : System capacity) where
  accounts := .start
  decisions := rfl
  dispatches := by
    intro call member
    contradiction

/-- What holds along a run, in terms of its history. -/
theorem run_conserved (calls : List PipelineCall) :
    let initial : System capacity := newPipeline venue manager
    let history := events (pipelineStep wiring) initial calls
    Conserved wiring manager (offeredOrders history).length
      (enqueuedOrders history) (drainCalls history)
      (run (pipelineStep wiring) initial calls) := by
  apply run_history_induction (pipelineStep wiring)
    (motive := fun history system =>
      Conserved wiring manager (offeredOrders history).length
        (enqueuedOrders history) (drainCalls history) system)
  · exact newPipeline_conserved wiring venue manager
  · intro history system call conserved
    have later := conserved.pipelineStep call
    simp only [offeredOrders, enqueuedOrders, drainCalls,
      List.flatMap_append, List.flatMap_singleton, List.length_append]
    exact later

/-- The orders of the iterations that reached the gateway. -/
theorem dispatchedOrders_of_conserved {offered : Nat}
    {entered : List OrderRequest} {history : History capacity}
    {system : System capacity}
    (conserved :
      Conserved wiring manager offered entered (drainCalls history)
        system) :
    dispatchedOrders history =
      (drainedOrders history).filter (reachesGateway wiring manager) := by
  rw [dispatchedOrders, drainedOrders, List.filter_map]
  congr 1
  exact List.filter_congr conserved.dispatches

/-- Every call sends the orders that it dispatches or that others send. -/
theorem pipelineStep_ordersSent (system : System capacity)
    (call : PipelineCall) :
    (pipelineStep wiring system call).2.gateway.ordersSent =
      system.gateway.ordersSent +
        dispatchedCount (drainedBy (pipelineStep wiring system call).1) +
        (sentByOthers call).length := by
  cases call with
  | enqueue request =>
      exact
        congrArg OrderGateway.ordersSent
          (enqueue_gateway wiring system request)
  | drain => exact drainTrace_ordersSent (drain_trace wiring system).1
  | venue call => exact venueStep_ordersSent wiring.venue system.toVenue call

/-- Along a run the gateway counts what was passed to `SendOrder`. -/
theorem run_ordersSent (calls : List PipelineCall) :
    let initial : System capacity := newPipeline venue manager
    let history := events (pipelineStep wiring) initial calls
    (run (pipelineStep wiring) initial calls).gateway.ordersSent =
      venue.gateway.ordersSent + (dispatchedOrders history).length +
        (othersOrders history).length := by
  apply run_history_induction (pipelineStep wiring)
    (motive := fun history system =>
      system.gateway.ordersSent =
        venue.gateway.ordersSent + (dispatchedOrders history).length +
          (othersOrders history).length)
  · rfl
  · intro history system call sent
    rw [pipelineStep_ordersSent, sent]
    simp only [dispatchedOrders, othersOrders, drainCalls, dispatchedCount,
      List.flatMap_append, List.flatMap_singleton, List.filter_append,
      List.length_map, List.length_append, List.countP_eq_length_filter,
      event]
    omega

/-- A refused `Enqueue` has increased one counter and done nothing else. -/
theorem enqueue_refused {system : System capacity} {request : OrderRequest}
    (refused : (enqueue wiring system request).1 = false) :
    (enqueue wiring system request).2 = refusedAsKnown system ∨
      (enqueue wiring system request).2 = dropped system := by
  rcases enqueue_cases wiring system request with
    ⟨attached, known⟩ | unknown
  · rw [enqueue_of_known attached known]
    exact Or.inl rfl
  · cases room : system.pipeline.buffer.full with
    | true =>
        rw [enqueue_of_full unknown room]
        exact Or.inr rfl
    | false =>
        rw [enqueue_of_room unknown room] at refused
        contradiction

/-- `Drain` returns the size of the buffer, and leaves it empty. -/
theorem drain_size (system : System capacity) :
    (drain wiring system).drainedNow = system.pipeline.buffer.size ∧
      (drain wiring system).system.pipeline.buffer.size = 0 := by
  rcases drain_trace wiring system with ⟨trace, count⟩
  rw [RingBuffer.length_contents] at count
  refine ⟨count, ?_⟩
  rw [← RingBuffer.length_contents, trace.orders.2, List.length_nil]

/--
Whichever pointers are null, and whatever others call on the tracker, the
gateway and the exchange: the counters of the pipeline add up; a refused
`Enqueue` increases one of them and does nothing else; a drain ends, returns
the size of the buffer and leaves it empty; and the orders passed to
`SendOrder` are those that were enqueued and have left the buffer, in order,
without the ones that the risk check refuses; and the gateway counts them with
what others send.
-/
theorem pipeline_conserves_orders (calls : List PipelineCall) :
    let initial : System capacity := newPipeline venue manager
    let history := events (pipelineStep wiring) initial calls
    let pipeline := (run (pipelineStep wiring) initial calls).pipeline
    ((offeredOrders history).length =
          pipeline.ordersEnqueued + pipeline.ordersDroppedOnEnqueue +
            pipeline.ordersRejectedByLifecycleOnEnqueue ∧
        pipeline.ordersEnqueued =
          pipeline.ordersDrained + pipeline.buffer.size ∧
        pipeline.ordersDrained =
          pipeline.ordersAccepted + pipeline.ordersRejected ∧
        pipeline.ordersRejected =
          pipeline.ordersRejectedByRisk +
            pipeline.ordersRejectedByGateway) ∧
      (∀ entry ∈ history, entry.output = .enqueued false →
        entry.after = refusedAsKnown entry.before ∨
          entry.after = dropped entry.before) ∧
      (∀ entry ∈ history, entry.input = .drain →
        ∃ drains,
          entry.output =
              .drained entry.before.pipeline.buffer.size drains ∧
            DrainTrace wiring entry.before drains entry.after ∧
            entry.after.pipeline.buffer.size = 0) ∧
      enqueuedOrders history =
          drainedOrders history ++ pipeline.buffer.contents ∧
        dispatchedOrders history =
          (drainedOrders history).filter
            (reachesGateway wiring manager) ∧
        (run (pipelineStep wiring) initial calls).gateway.ordersSent =
          venue.gateway.ordersSent + (dispatchedOrders history).length +
            (othersOrders history).length := by
  intro initial history pipeline
  have conserved :
      Conserved wiring manager (offeredOrders history).length
        (enqueuedOrders history) (drainCalls history)
        (run (pipelineStep wiring) initial calls) :=
    run_conserved wiring venue manager calls
  have accounts := conserved.accounts
  refine ⟨⟨accounts.offers, ?_, accounts.answers, accounts.rejects⟩,
    ?_, ?_, accounts.queue, ?_, run_ordersSent wiring venue manager calls⟩
  · have entered := accounts.enters
    rw [accounts.queue, List.length_append, ← accounts.leaves,
      RingBuffer.length_contents] at entered
    exact entered
  · apply events_forall_of_step (pipelineStep wiring)
    intro system call refused
    cases call with
    | enqueue request =>
        exact enqueue_refused wiring (PipelineReply.enqueued.inj refused)
    | drain => contradiction
    | venue call => contradiction
  · apply events_forall_of_step (pipelineStep wiring)
    intro system call drains
    cases call with
    | enqueue request => contradiction
    | drain =>
        rcases drain_size wiring system with ⟨count, empty⟩
        refine ⟨(drain wiring system).calls, ?_,
          (drain_trace wiring system).1, empty⟩
        exact congrArg (PipelineReply.drained · _) count
    | venue call => contradiction
  · exact dispatchedOrders_of_conserved wiring manager conserved

end History

end Llgw.PipelineConservation
