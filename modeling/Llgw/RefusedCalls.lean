import Llgw.Foundation.Projection
import Llgw.Synchronisation

/-!
# Refused calls leave nothing behind

An offer that is not taken in and an action that is not permitted change
counters of refusals and nothing else, and no answer depends on these.  So a
run may be cleared of its refused calls, such as offers delivered twice: the
calls that remain are answered as before and lead to the same state.
-/

namespace Llgw.RefusedCalls

open Llgw.Foundation
open Llgw.Foundation.TransitionRun
open Llgw.Foundation.Projection
open Llgw.Messages
open Llgw.Buffer
open Llgw.Risk
open Llgw.Exchange
open Llgw.Lifecycle
open Llgw.LifecycleMarks
open Llgw.Gateway
open Llgw.Pipeline
open Llgw.System
open Llgw.StepEffects
open Llgw.Effects
open Llgw.Synchronisation

variable {capacity : ℕ+} {wiring : Wiring}

/-! ## What a refusal may change -/

/-- A tracker without its error state. -/
def quietTracker (tracker : OrderLifecycleTracker) :
    OrderLifecycleTracker :=
  { tracker with errors := {}, lastError := .none }

/-- A gateway without the counters that a refused action steps. -/
def quietGateway (gateway : OrderGateway) : OrderGateway :=
  { gateway with
    cancelsSent := 0
    cancelsRejected := 0
    amendsSent := 0
    amendsRejected := 0
    lifecycleTransitionErrors := 0 }

/-- A pipeline without its counters of refused offers and of errors. -/
def quietPipeline (pipeline : OrderPipeline capacity) :
    OrderPipeline capacity :=
  { pipeline with
    ordersDroppedOnEnqueue := 0
    ordersRejectedByLifecycleOnEnqueue := 0
    lifecycleTransitionErrors := 0 }

/-- Two venues that differ in what a refusal may change. -/
structure HushedVenue (left right : Venue) : Prop where
  gateway : quietGateway left.gateway = quietGateway right.gateway
  exchange : left.exchange = right.exchange
  tracker :
    quietTracker left.lifecycleTracker =
      quietTracker right.lifecycleTracker

/-- Two systems that differ in what a refusal may change. -/
structure Hushed (left right : System capacity) : Prop where
  venue : HushedVenue left.toVenue right.toVenue
  riskManager : left.riskManager = right.riskManager
  pipeline : quietPipeline left.pipeline = quietPipeline right.pipeline

theorem HushedVenue.records {left right : Venue}
    (hushed : HushedVenue left right) :
    left.lifecycleTracker.records = right.lifecycleTracker.records := by
  have same := congrArg OrderLifecycleTracker.records hushed.tracker
  exact same

theorem Hushed.refl (system : System capacity) : Hushed system system :=
  ⟨⟨rfl, rfl, rfl⟩, rfl, rfl⟩

theorem Hushed.trans {left middle right : System capacity}
    (first : Hushed left middle) (second : Hushed middle right) :
    Hushed left right where
  venue :=
    { gateway := first.venue.gateway.trans second.venue.gateway
      exchange := first.venue.exchange.trans second.venue.exchange
      tracker := first.venue.tracker.trans second.venue.tracker }
  riskManager := first.riskManager.trans second.riskManager
  pipeline := first.pipeline.trans second.pipeline

theorem Hushed.buffer {left right : System capacity}
    (hushed : Hushed left right) :
    left.pipeline.buffer = right.pipeline.buffer := by
  have same := congrArg OrderPipeline.buffer hushed.pipeline
  exact same

/-! ## Lifecycle calls -/

section Trackers

variable {left right : OrderLifecycleTracker}
  (same : quietTracker left = quietTracker right)
include same

theorem legal_of_quiet {sequenceId : UInt64} {mark : Mark}
    {record : OrderLifecycleRecord}
    (legal : Legal left sequenceId record mark) :
    Legal right sequenceId record mark where
  found := by
    have records := congrArg OrderLifecycleTracker.records same
    exact (congrArg (Finmap.lookup sequenceId) records).symm.trans
      legal.found
  state := legal.state
  reason := legal.reason

/-- A transition does not depend on the error state. -/
theorem applyMark_quiet (sequenceId : UInt64) (mark : Mark) :
    (applyMark left sequenceId mark).1 =
        (applyMark right sequenceId mark).1 ∧
      quietTracker (applyMark left sequenceId mark).2 =
        quietTracker (applyMark right sequenceId mark).2 := by
  rcases applyMark_cases left sequenceId mark with
    ⟨record, legal, result⟩ | ⟨illegal, error, _, _, result⟩
  · rw [result, applyMark_of_legal (legal_of_quiet same legal)]
    refine ⟨rfl, ?_⟩
    exact
      congrArg (fun tracker => marked tracker sequenceId record mark) same
  · rcases applyMark_cases right sequenceId mark with
      ⟨record, legal, _⟩ | ⟨_, _, _, _, result'⟩
    · exact absurd (legal_of_quiet same.symm legal) (illegal record)
    · rw [result, result']
      exact ⟨rfl, same⟩

theorem track_quiet (attached : Bool) (sequenceId : UInt64) (mark : Mark) :
    (track attached sequenceId mark left).1 =
        (track attached sequenceId mark right).1 ∧
      quietTracker (track attached sequenceId mark left).2 =
        quietTracker (track attached sequenceId mark right).2 := by
  cases attached with
  | false => exact ⟨rfl, same⟩
  | true => exact applyMark_quiet same sequenceId mark

end Trackers

/-- A counted error does not show. -/
theorem quietPipeline_countError (failed : Prop) [Decidable failed]
    (pipeline : OrderPipeline capacity) :
    quietPipeline
        (if failed then
          { pipeline with
            lifecycleTransitionErrors :=
              pipeline.lifecycleTransitionErrors + 1 }
        else pipeline) =
      quietPipeline pipeline := by
  split_ifs <;> rfl

/-! ## The gateway -/

section Venues

variable {left right : Venue} (hushed : HushedVenue left right)
include hushed

theorem HushedVenue.sendOrder (wiring : GatewayWiring)
    (request : OrderRequest) :
    (sendOrder wiring left request).1 =
        (sendOrder wiring right request).1 ∧
      HushedVenue (sendOrder wiring left request).2
        (sendOrder wiring right request).2 := by
  simp only [Gateway.sendOrder, hushed.exchange]
  split_ifs
  · refine ⟨rfl, { hushed with gateway := ?_, exchange := rfl }⟩
    exact
      congrArg
        (fun gateway : OrderGateway =>
          { gateway with
            ordersSent := gateway.ordersSent + 1
            ordersRejected := gateway.ordersRejected + 1 })
        hushed.gateway
  · refine ⟨rfl, { hushed with gateway := ?_, exchange := rfl }⟩
    exact
      congrArg
        (fun gateway : OrderGateway =>
          { gateway with
            ordersSent := gateway.ordersSent + 1
            ordersAccepted := gateway.ordersAccepted + 1 })
        hushed.gateway
  · refine ⟨rfl, { hushed with gateway := ?_, exchange := rfl }⟩
    exact
      congrArg
        (fun gateway : OrderGateway =>
          { gateway with
            ordersSent := gateway.ordersSent + 1
            ordersRejected := gateway.ordersRejected + 1 })
        hushed.gateway

/-- The counting of an action whose requests and refusals do not show. -/
structure Unheard {Response : Type} (path : ActionPath Response) :
    Prop where
  sent :
    ∀ gateway, quietGateway (path.countSent gateway) = quietGateway gateway
  rejected :
    ∀ gateway,
      quietGateway (path.countRejected gateway) = quietGateway gateway
  accepted :
    ∀ first second, quietGateway first = quietGateway second →
      quietGateway (path.countAccepted first) =
        quietGateway (path.countAccepted second)

omit hushed in
theorem cancelPath_unheard (request : CancelRequest) :
    Unheard (cancelPath request) where
  sent _ := rfl
  rejected _ := rfl
  accepted _ _ same :=
    congrArg
      (fun gateway : OrderGateway =>
        { gateway with cancelsAccepted := gateway.cancelsAccepted + 1 })
      same

omit hushed in
theorem amendPath_unheard (request : AmendRequest) :
    Unheard (amendPath request) where
  sent _ := rfl
  rejected _ := rfl
  accepted _ _ same :=
    congrArg
      (fun gateway : OrderGateway =>
        { gateway with amendsAccepted := gateway.amendsAccepted + 1 })
      same

omit hushed in
theorem quietGateway_countErrorIf (failed : Prop) [Decidable failed]
    (gateway : OrderGateway) :
    quietGateway (if failed then countError gateway else gateway) =
      quietGateway gateway := by
  split_ifs <;> rfl

theorem HushedVenue.sendAction {Response : Type}
    {path : ActionPath Response} (unheard : Unheard path)
    (wiring : GatewayWiring) :
    (sendAction wiring left path).1 = (sendAction wiring right path).1 ∧
      HushedVenue (sendAction wiring left path).2
        (sendAction wiring right path).2 := by
  have pending :=
    track_quiet hushed.tracker wiring.lifecycleTracker path.sequenceId
      path.pendingMark
  have sent :
      quietGateway (path.countSent left.gateway) =
        quietGateway (path.countSent right.gateway) := by
    rw [unheard.sent, unheard.sent, hushed.gateway]
  simp only [Gateway.sendAction, pending.1, hushed.exchange]
  cases
    (track wiring.lifecycleTracker path.sequenceId path.pendingMark
      right.lifecycleTracker).1 with
  | false =>
      refine ⟨rfl, ?_, rfl, pending.2⟩
      simp only [Bool.not_false, if_true, unheard.rejected]
      exact sent
  | true =>
      refine ⟨rfl, ?_, rfl, (track_quiet pending.2 _ _ _).2⟩
      simp only [Bool.not_true, Bool.false_eq_true, if_false,
        quietGateway_countErrorIf]
      split_ifs
      · exact unheard.accepted _ _ sent
      · rw [unheard.rejected, unheard.rejected]
        exact sent

end Venues

/-! ## The pipeline -/

section Systems

variable {left right : System capacity} (hushed : Hushed left right)
include hushed

theorem Hushed.notify (wiring : Wiring) (sequenceId : UInt64)
    (mark : Mark) :
    Hushed (notify wiring left sequenceId mark)
      (notify wiring right sequenceId mark) where
  venue :=
    { hushed.venue with
      tracker :=
        (track_quiet hushed.venue.tracker wiring.lifecycleTracker
          sequenceId mark).2 }
  riskManager := hushed.riskManager
  pipeline := by
    simp only [Pipeline.notify, quietPipeline_countError]
    exact hushed.pipeline

theorem Hushed.enqueue (wiring : Wiring) (request : OrderRequest) :
    (enqueue wiring left request).1 = (enqueue wiring right request).1 ∧
      Hushed (enqueue wiring left request).2
        (enqueue wiring right request).2 := by
  rcases enqueue_cases wiring left request with
    ⟨tracker, known⟩ | unknown
  · have known' := hushed.venue.records ▸ known
    rw [enqueue_of_known tracker known, enqueue_of_known tracker known']
    exact ⟨rfl, { hushed with pipeline := hushed.pipeline }⟩
  · have unknown' :
        wiring.lifecycleTracker = true →
          request.sequenceId ∉ right.lifecycleTracker.records :=
      fun tracker => hushed.venue.records ▸ unknown tracker
    cases room : left.pipeline.buffer.full with
    | true =>
        have room' := hushed.buffer ▸ room
        rw [enqueue_of_full unknown room, enqueue_of_full unknown' room']
        exact ⟨rfl, { hushed with pipeline := hushed.pipeline }⟩
    | false =>
        have room' := hushed.buffer ▸ room
        rw [enqueue_of_room unknown room, enqueue_of_room unknown' room']
        refine ⟨rfl, { hushed with venue := ?_, pipeline := ?_ }⟩
        · refine { hushed.venue with tracker := ?_ }
          cases attached : wiring.lifecycleTracker with
          | false =>
              simp only [joined, attached]
              exact hushed.venue.tracker
          | true =>
              simp only [joined, attached]
              exact
                congrArg (fun tracker => enqueued tracker request.sequenceId)
                  hushed.venue.tracker
        · exact
            congrArg
              (fun pipeline : OrderPipeline capacity =>
                { pipeline with
                  buffer := (pipeline.buffer.push request).2
                  ordersEnqueued := pipeline.ordersEnqueued + 1 })
              hushed.pipeline

theorem Hushed.dispatch (wiring : Wiring) (order : OrderRequest) :
    (dispatch wiring left order).1 = (dispatch wiring right order).1 ∧
      Hushed (dispatch wiring left order).2
        (dispatch wiring right order).2 := by
  have marked :=
    track_quiet hushed.venue.tracker wiring.lifecycleTracker
      order.sequenceId .sent
  have sent := hushed.notify wiring order.sequenceId .sent
  have answered := sent.venue.sendOrder wiring.venue order
  have state :
      (Pipeline.notify wiring left order.sequenceId
          .sent).lifecycleTracker.stateOf order.sequenceId =
        (Pipeline.notify wiring right order.sequenceId
          .sent).lifecycleTracker.stateOf order.sequenceId := by
    rw [OrderLifecycleTracker.stateOf, OrderLifecycleTracker.find,
      sent.venue.records]
    rfl
  simp only [Pipeline.dispatch, marked.1, answered.1, state]
  cases wiring.gateway with
  | false =>
      refine ⟨rfl, Hushed.notify ?_ wiring order.sequenceId _⟩
      exact
        { sent with pipeline := congrArg countGatewayReject sent.pipeline }
  | true =>
      refine ⟨rfl, Hushed.notify ?_ wiring order.sequenceId _⟩
      refine { sent with venue := answered.2, pipeline := ?_ }
      split_ifs
      · exact congrArg countAccept sent.pipeline
      · exact congrArg countGatewayReject sent.pipeline

theorem Hushed.drainOrder (wiring : Wiring) (order : OrderRequest) :
    (drainOrder wiring left order).1 = (drainOrder wiring right order).1 ∧
      Hushed (drainOrder wiring left order).2
        (drainOrder wiring right order).2 := by
  simp only [Pipeline.drainOrder, hushed.riskManager]
  split_ifs
  · refine ⟨rfl, Hushed.notify ?_ wiring order.sequenceId _⟩
    exact
      { hushed with
        riskManager := rfl
        pipeline := congrArg (countRiskReject _) hushed.pipeline }
  · have checked :
        Hushed
          { left with
            riskManager := (right.riskManager.check order).2 }
          { right with
            riskManager := (right.riskManager.check order).2 } :=
      ⟨hushed.venue, rfl, hushed.pipeline⟩
    exact checked.dispatch wiring order
  · exact hushed.dispatch wiring order

theorem Hushed.popped (buffer : RingBuffer OrderRequest capacity) :
    Hushed (popped left buffer) (popped right buffer) :=
  { hushed with
    pipeline :=
      congrArg
        (fun pipeline : OrderPipeline capacity =>
          { pipeline with
            buffer := buffer
            ordersDrained := pipeline.ordersDrained + 1 })
        hushed.pipeline }

omit hushed in
/-- The loop of a drain makes the same iterations. -/
theorem hushed_drainLoop (wiring : Wiring) (fuel : Nat)
    {left right : System capacity} (hushed : Hushed left right) :
    (drainLoop wiring fuel left).drainedNow =
        (drainLoop wiring fuel right).drainedNow ∧
      (drainLoop wiring fuel left).calls =
        (drainLoop wiring fuel right).calls ∧
      Hushed (drainLoop wiring fuel left).system
        (drainLoop wiring fuel right).system := by
  induction fuel generalizing left right with
  | zero => exact ⟨rfl, rfl, hushed⟩
  | succ fuel induction =>
      simp only [drainLoop, drainStep, hushed.buffer]
      cases right.pipeline.buffer.pop.1 with
      | none => exact ⟨rfl, rfl, hushed⟩
      | some order =>
          have processed :=
            (hushed.popped right.pipeline.buffer.pop.2).drainOrder wiring
              order
          rcases induction processed.2 with ⟨drained, calls, later⟩
          simp only [processed.1, drained, calls]
          exact ⟨trivial, trivial, later⟩

/-- The step lemma: no answer depends on what a refusal may change. -/
theorem Hushed.step (wiring : Wiring) (call : Call) :
    (step wiring left call).1 = (step wiring right call).1 ∧
      Hushed (step wiring left call).2 (step wiring right call).2 := by
  cases call with
  | enqueue request =>
      have offered := hushed.enqueue wiring request
      exact ⟨congrArg Reply.enqueued offered.1, offered.2⟩
  | drain =>
      rcases
        hushed_drainLoop wiring (left.pipeline.buffer.size + 1) hushed with
        ⟨drained, calls, later⟩
      simp only [hushed.buffer] at drained calls later
      simp only [System.step, drain, hushed.buffer, drained, calls]
      exact ⟨trivial, later⟩
  | sendCancel request =>
      have answered :=
        hushed.venue.sendAction (cancelPath_unheard request) wiring.venue
      exact
        ⟨congrArg Reply.cancelled answered.1,
          { hushed with venue := answered.2 }⟩
  | sendAmend request =>
      have answered :=
        hushed.venue.sendAction (amendPath_unheard request) wiring.venue
      exact
        ⟨congrArg Reply.amended answered.1,
          { hushed with venue := answered.2 }⟩

end Systems

/-! ## Runs without their refused calls -/

/-- Whether a call was refused by buffer or tracker. -/
def refused : Reply → Bool
  | .enqueued accepted => !accepted
  | .drained _ _ => false
  | .cancelled response => !response.accepted
  | .amended response => response.rejectReason == .invalidState

/-- The call of an event, unless it was refused. -/
def keptCall (entry : Event (System capacity) Call Reply) : Option Call :=
  if refused entry.output then none else some entry.input

/-- The answer to a call that was not refused. -/
def keptReply (entry : Event (System capacity) Call Reply) : Option Reply :=
  Option.guard (fun reply => !refused reply) entry.output

section Kept

variable {entry : Event (System capacity) Call Reply}

theorem kept_of_refused (refuses : refused entry.output = true) :
    keptCall entry = none ∧ keptReply entry = none := by
  simp [keptCall, keptReply, Option.guard, refuses]

theorem kept_of_carried (carried : refused entry.output = false) :
    keptCall entry = some entry.input ∧
      keptReply entry = some entry.output := by
  simp [keptCall, keptReply, Option.guard, carried]

end Kept

section Refusals

variable {riskManager : Bool} {system next : System capacity}

theorem hushed_of_refusedOffer {request : OrderRequest}
    (effect : Effect riskManager system (.enqueued request false) next) :
    Hushed next system := by
  cases effect with
  | refusedAsKnown => exact ⟨⟨rfl, rfl, rfl⟩, rfl, rfl⟩
  | dropped => exact ⟨⟨rfl, rfl, rfl⟩, rfl, rfl⟩

theorem hushed_of_refusedCancel {request : CancelRequest}
    {response : CancelResponse}
    (effect : Effect riskManager system (.cancelled request response) next)
    (refuses : response.accepted = false) : Hushed next system := by
  cases effect with
  | cancelRefused => exact ⟨⟨rfl, rfl, rfl⟩, rfl, rfl⟩
  | cancelledOrder => contradiction

theorem hushed_of_refusedAmend {request : AmendRequest}
    {response : AmendResponse}
    (effect : Effect riskManager system (.amended request response) next)
    (refuses : response.rejectReason = .invalidState) :
    Hushed next system := by
  cases effect with
  | amendRefused => exact ⟨⟨rfl, rfl, rfl⟩, rfl, rfl⟩
  | acceptedAmend => contradiction
  | rejectedAmend _ _ _ _ permitted => exact absurd refuses permitted

/-- A refused call changes what a refusal may change, and nothing else. -/
theorem hushed_of_refused (synchronised : Synchronised system) {call : Call}
    (refuses : refused (step (tracked riskManager) system call).1 = true) :
    Hushed (step (tracked riskManager) system call).2 system := by
  cases call with
  | enqueue request =>
      have effect := enqueue_effect riskManager system request
      simp only [step, refused, Bool.not_eq_true'] at refuses
      rw [refuses] at effect
      exact hushed_of_refusedOffer effect
  | drain => contradiction
  | sendCancel request =>
      have effect : Effect riskManager system _ _ :=
        sendCancel_effect synchronised request
      simp only [step, refused, Bool.not_eq_true'] at refuses
      exact hushed_of_refusedCancel effect refuses
  | sendAmend request =>
      have effect : Effect riskManager system _ _ :=
        sendAmend_effect synchronised request
      simp only [step, refused, beq_iff_eq] at refuses
      exact hushed_of_refusedAmend effect refuses

end Refusals

/-- A system that has got all the calls, next to one without the refused. -/
structure Cleared (full kept : System capacity) : Prop where
  synchronised : Synchronised full
  hushed : Hushed full kept

theorem step_synchronised (riskManager : Bool) {system : System capacity}
    (synchronised : Synchronised system) (call : Call) :
    Synchronised (step (tracked riskManager) system call).2 := by
  have effects : LabelledTrace.Trace (Effect riskManager) system _ _ :=
    step_effects synchronised call
  exact
    effects.invariant Synchronised
      (fun _ _ _ effect => effect.synchronised) synchronised

/-- The step lemma: a system without the refused calls keeps up. -/
theorem step_cleared (riskManager : Bool) :
    Follows
      (step (tracked riskManager) :
        System capacity → Call → Reply × System capacity)
      (step (tracked riskManager)) Cleared keptCall keptReply
      (fun entry => some entry.output) where
  unseen full kept call cleared silent := by
    have synchronised :=
      step_synchronised riskManager cleared.synchronised call
    cases refuses :
        refused (event (step (tracked riskManager)) full call).output with
    | false =>
        rw [(kept_of_carried refuses).1] at silent
        contradiction
    | true =>
        have hushed := hushed_of_refused cleared.synchronised refuses
        exact
          ⟨⟨synchronised, hushed.trans cleared.hushed⟩,
            (kept_of_refused refuses).2⟩
  seen full kept call call' cleared concerns := by
    have synchronised :=
      step_synchronised riskManager cleared.synchronised call
    cases refuses :
        refused (event (step (tracked riskManager)) full call).output with
    | true =>
        rw [(kept_of_refused refuses).1] at concerns
        contradiction
    | false =>
        have kept := kept_of_carried refuses
        rcases Option.some.inj (kept.1.symm.trans concerns) with rfl
        have alike := cleared.hushed.step (tracked riskManager) call
        exact
          ⟨⟨synchronised, alike.2⟩, kept.2.trans (congrArg some alike.1)⟩

/-- The calls of a run that were not refused. -/
def keptCalls (capacity : ℕ+) (wiring : Wiring) (limits : RiskLimits)
    (journal : Bool) (calls : List Call) : List Call :=
  projected (step wiring) keptCall
    (fresh limits journal : System capacity) calls

/--
Refused calls leave nothing behind: a run without them answers every call that
is left as before, and its queue, records, journal, active orders and risk
manager, and every counter of what was carried out, are the same.
-/
theorem run_without_refused (riskManager journal : Bool)
    (limits : RiskLimits) (calls : List Call) :
    let start : System capacity := fresh limits journal
    let kept := keptCalls capacity (tracked riskManager) limits journal calls
    Hushed
        (runFresh (tracked riskManager) limits journal calls :
          System capacity)
        (runFresh (tracked riskManager) limits journal kept) ∧
      outputs (step (tracked riskManager)) start kept =
        (outputs (step (tracked riskManager)) start calls).filter
          (fun reply => !refused reply) := by
  have start :
      Cleared (fresh limits journal : System capacity)
        (fresh limits journal) :=
    ⟨Synchronised.fresh limits journal, Hushed.refl _⟩
  have followed := (step_cleared riskManager).run start calls
  rw [filterMap_output] at followed
  refine ⟨followed.1.hushed, followed.2.symm.trans ?_⟩
  rw [outputs, ← List.filterMap_eq_filter, List.filterMap_map]
  rfl

end Llgw.RefusedCalls
