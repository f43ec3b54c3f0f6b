import Llgw.OrderViews

/-!
# Calls that are delivered more than once

A call that is delivered again right away changes nothing of what buffer,
tracker and exchange hold: an offer is known or still finds no room, a drained
queue is empty, a cancelled order cannot be cancelled, and an amended order is
amended to the terms it has.  So a caller that delivers every call at least
once achieves what it would by delivering it exactly once.  Only counters and
reports tell the difference.
-/

namespace Llgw.Redelivery

open Llgw.Foundation
open Llgw.Foundation.TransitionRun
open Llgw.Foundation.Projection
open Llgw.Messages
open Llgw.Buffer
open Llgw.Risk
open Llgw.Exchange
open Llgw.Lifecycle
open Llgw.LifecycleMarks
open Llgw.Gateway
open Llgw.Pipeline
open Llgw.System
open Llgw.OrderAgreement
open Llgw.StepEffects
open Llgw.Effects
open Llgw.Synchronisation
open Llgw.OrderViews

variable {capacity : ℕ+} {riskManager : Bool}

/-! ## Orders without their reports -/

/-- A view without the reports that were written. -/
def unreported (shown : OrderView) : OrderView :=
  { shown with reports := none }

section Orders

variable (risk : OrderRequest → Option RiskRejectReason)

/-- What happens to an order does not depend on its reports. -/
theorem orderStep_unreported (shown : OrderView) (call : OrderCall) :
    orderStep risk (unreported shown) call =
      ((orderStep risk shown call).1,
        unreported (orderStep risk shown call).2) := by
  rcases shown with ⟨waiting, record, active, seen, reports⟩
  cases call with
  | offer request room =>
      cases record with
      | some record => rfl
      | none => cases room <;> rfl
  | drain =>
      cases waiting with
      | none => rfl
      | some order =>
          cases record with
          | none => rfl
          | some record =>
              simp only [orderStep, unreported, settle]
              cases risk order <;> rfl
  | cancel request =>
      cases record with
      | none => rfl
      | some record =>
          simp only [orderStep, unreported, OrderView.accepted]
          cases (some record).filter fun record =>
            record.state = .exchangeAccepted <;> rfl
  | amend request =>
      cases record with
      | none => rfl
      | some record =>
          simp only [orderStep, unreported, OrderView.accepted]
          cases (some record).filter fun record =>
            record.state = .exchangeAccepted with
          | none => rfl
          | some found => cases active <;> rfl

/-- Orders that differ in their reports fare alike. -/
theorem orderStep_alike {first second : OrderView}
    (same : unreported first = unreported second) (call : OrderCall) :
    (orderStep risk first call).1 = (orderStep risk second call).1 ∧
      unreported (orderStep risk first call).2 =
        unreported (orderStep risk second call).2 := by
  have alike :
      ((orderStep risk first call).1,
          unreported (orderStep risk first call).2) =
        ((orderStep risk second call).1,
          unreported (orderStep risk second call).2) := by
    rw [← orderStep_unreported, ← orderStep_unreported, same]
  exact Prod.mk.inj alike

/-! ## An order that gets a call twice -/

variable {risk}

/-- An order that is known does not take in another offer. -/
theorem offer_again (shown : OrderView) (request : OrderRequest)
    {room room' : Bool} (full : room = false → room' = false) :
    (orderStep risk (orderStep risk shown (.offer request room)).2
        (.offer request room')).2 =
      (orderStep risk shown (.offer request room)).2 := by
  rcases shown with ⟨waiting, record, active, seen, reports⟩
  cases record with
  | some record => rfl
  | none =>
      cases room with
      | true => rfl
      | false =>
          rw [full rfl]
          rfl

theorem drain_again (shown : OrderView) :
    (orderStep risk (orderStep risk shown .drain).2 .drain).2 =
      (orderStep risk shown .drain).2 := by
  rcases shown with ⟨waiting, record, active, seen, reports⟩
  cases waiting with
  | none => rfl
  | some order =>
      cases record with
      | none => rfl
      | some record =>
          simp only [orderStep, settle]
          cases risk order <;> rfl

theorem cancel_again (shown : OrderView) (request : CancelRequest) :
    (orderStep risk (orderStep risk shown (.cancel request)).2
        (.cancel request)).2 =
      (orderStep risk shown (.cancel request)).2 := by
  cases accepted : shown.accepted with
  | none => simp only [orderStep, accepted]
  | some record =>
      simp only [orderStep, accepted]
      rfl

omit risk in
/-- An active order is amended whatever its terms are. -/
theorem amendVerdict_of_terms (order other : OrderRequest)
    (request : AmendRequest) :
    amendVerdict order request = amendVerdict other request := by
  simp only [amendVerdict, ExchangeSimulator.amendOrder,
    Finmap.lookup_singleton_eq]
  split_ifs <;> rfl

/-- An active order after an amendment. -/
def afterAmend (shown : OrderView) (record : OrderLifecycleRecord)
    (order : OrderRequest) (request : AmendRequest) : OrderView :=
  let response := amendVerdict order request
  { shown.updated
      (completedUpdate record .amendPending
        ((amendPath request).completingMark response)) with
    active :=
      if response.accepted then some (amendedOrder order request)
      else some order }

theorem amend_of_accepted {shown : OrderView}
    {record : OrderLifecycleRecord} {order : OrderRequest}
    (request : AmendRequest) (accepted : shown.accepted = some record)
    (active : shown.active = some order) :
    (orderStep risk shown (.amend request)).2 =
      afterAmend shown record order request := by
  simp only [orderStep, accepted, active, afterAmend]

omit risk in
/-- An amendment that is made twice leaves what it left once. -/
theorem afterAmend_again (shown : OrderView)
    (record : OrderLifecycleRecord) (order : OrderRequest)
    (request : AmendRequest) :
    ∃ record' order',
      (afterAmend shown record order request).accepted = some record' ∧
        (afterAmend shown record order request).active = some order' ∧
        unreported
            (afterAmend (afterAmend shown record order request) record'
              order' request) =
          unreported (afterAmend shown record order request) := by
  simp only [afterAmend, amendVerdict_of_terms _ order request]
  generalize amendVerdict order request = response
  rcases response with ⟨sequenceId, accepted, reason⟩
  cases accepted with
  | true => exact ⟨_, _, rfl, rfl, rfl⟩
  | false => exact ⟨_, _, rfl, rfl, rfl⟩

theorem amend_again (shown : OrderView) (request : AmendRequest) :
    unreported
        (orderStep risk (orderStep risk shown (.amend request)).2
          (.amend request)).2 =
      unreported (orderStep risk shown (.amend request)).2 := by
  cases accepted : shown.accepted with
  | none => simp only [orderStep, accepted]
  | some record =>
      cases active : shown.active with
      | none => simp only [orderStep, accepted, active]
      | some order =>
          rcases afterAmend_again shown record order request with
            ⟨record', order', accepted', active', again⟩
          rw [amend_of_accepted request accepted active,
            amend_of_accepted request accepted' active', again]

end Orders

/-! ## Systems that differ in their reports -/

/-- Two systems that show the same of every order, but for the reports. -/
structure Level (limits : RiskLimits) (left right : System capacity) :
    Prop where
  leftDecided : Decided limits left
  rightDecided : Decided limits right
  contents :
    left.pipeline.buffer.contents = right.pipeline.buffer.contents
  shows :
    ∀ sequenceId,
      unreported (view left sequenceId) = unreported (view right sequenceId)

variable {limits : RiskLimits}

theorem Level.refl {system : System capacity}
    (decided : Decided limits system) : Level limits system system where
  leftDecided := decided
  rightDecided := decided
  contents := rfl
  shows _ := rfl

theorem Level.trans {left middle right : System capacity}
    (first : Level limits left middle) (second : Level limits middle right) :
    Level limits left right where
  leftDecided := first.leftDecided
  rightDecided := second.rightDecided
  contents := first.contents.trans second.contents
  shows sequenceId := (first.shows sequenceId).trans (second.shows sequenceId)

theorem outcomeFor_eq_none {calls : List DrainCall} {sequenceId : UInt64}
    (absent :
      sequenceId ∉ calls.map fun call => call.order.sequenceId) :
    outcomeFor calls sequenceId = none := by
  rw [outcomeFor, Option.map_eq_none_iff, List.find?_eq_none]
  intro call member own
  exact absent (List.mem_map.mpr ⟨call, member, beq_iff_eq.mp own⟩)

/-- Drains of the same orders with the same outcomes are the same. -/
theorem drainCalls_ext {calls others : List DrainCall}
    (orders : calls.map DrainCall.order = others.map DrainCall.order)
    (distinct : (calls.map fun call => call.order.sequenceId).Nodup)
    (outcomes :
      ∀ sequenceId,
        outcomeFor calls sequenceId = outcomeFor others sequenceId) :
    calls = others := by
  induction calls generalizing others with
  | nil => exact (List.map_eq_nil_iff.mp orders.symm).symm
  | cons call calls induction =>
      cases others with
      | nil => contradiction
      | cons other others =>
          simp only [List.map_cons, List.cons.injEq] at orders
          rw [List.map_cons, List.nodup_cons] at distinct
          rcases orders with ⟨head, rest⟩
          have own := outcomes call.order.sequenceId
          rw [outcomeFor_cons_self, head, outcomeFor_cons_self] at own
          have same : call = other := by
            rcases call with ⟨order, outcome⟩
            rcases other with ⟨order', outcome'⟩
            rcases head with rfl
            rcases Option.some.inj own with rfl
            rfl
          rw [same]
          refine congrArg (other :: ·) (induction rest distinct.2 ?_)
          intro sequenceId
          by_cases first : call.order.sequenceId = sequenceId
          · have ids :
                (others.map fun call => call.order.sequenceId) =
                  calls.map fun call => call.order.sequenceId := by
              have same := congrArg (List.map OrderRequest.sequenceId) rest
              rw [List.map_map, List.map_map] at same
              exact same.symm
            rw [← first, outcomeFor_eq_none distinct.1,
              outcomeFor_eq_none (ids ▸ distinct.1)]
          · have later := outcomes sequenceId
            rw [outcomeFor_cons_of_ne first,
              outcomeFor_cons_of_ne (head ▸ first)] at later
            exact later

section Systems

variable {left right : System capacity} (level : Level limits left right)
include level

theorem Level.record (sequenceId : UInt64) :
    (view left sequenceId).record = (view right sequenceId).record := by
  have same := congrArg OrderView.record (level.shows sequenceId)
  exact same

theorem Level.enqueue_accepted (riskManager : Bool)
    (request : OrderRequest) :
    (enqueue (tracked riskManager) left request).1 =
      (enqueue (tracked riskManager) right request).1 := by
  rw [OrderViews.enqueue_accepted level.leftDecided.synchronised,
    OrderViews.enqueue_accepted level.rightDecided.synchronised,
    full_congr level.contents, level.record]

/-- The step lemma: one call keeps two systems level. -/
theorem Level.step (riskManager : Bool) (call : Call) :
    Level limits (step (tracked riskManager) left call).2
      (step (tracked riskManager) right call).2 where
  leftDecided := level.leftDecided.step riskManager call
  rightDecided := level.rightDecided.step riskManager call
  contents :=
    step_contents_congr level.contents (level.enqueue_accepted riskManager)
      call
  shows sequenceId := by
    have same :=
      callFor_congr level.contents (tracked riskManager)
        (tracked riskManager) sequenceId call
    cases concerns :
        callFor sequenceId
          (event (System.step (tracked riskManager)) left call) with
    | none =>
        rw [step_unshown level.leftDecided concerns,
          step_unshown level.rightDecided (same.symm.trans concerns)]
        exact level.shows sequenceId
    | some small =>
        rw [(step_shown level.leftDecided concerns).1,
          (step_shown level.rightDecided (same.symm.trans concerns)).1]
        exact (orderStep_alike _ (level.shows sequenceId) small).2

/-- Both systems give the same answer. -/
theorem Level.answers (riskManager : Bool) (call : Call) :
    (System.step (tracked riskManager) left call).1 =
      (System.step (tracked riskManager) right call).1 := by
  cases call with
  | enqueue request =>
      exact congrArg Reply.enqueued (level.enqueue_accepted _ request)
  | drain =>
      have first := drain_trace (tracked riskManager) left
      have second := drain_trace (tracked riskManager) right
      have drained :
          (drain (tracked riskManager) left).drainedNow =
            (drain (tracked riskManager) right).drainedNow := by
        rw [first.2, second.2, level.contents]
      have calls :
          (drain (tracked riskManager) left).calls =
            (drain (tracked riskManager) right).calls := by
        apply drainCalls_ext
        · rw [first.1.orders.1, second.1.orders.1, level.contents]
        · have distinct := Agreement.nodup level.leftDecided.synchronised
          rw [System.queuedIds, ← first.1.orders.1, List.map_map]
            at distinct
          exact distinct
        · intro sequenceId
          have own :=
            drainTrace_view first.1 level.leftDecided sequenceId
          have other :=
            drainTrace_view second.1 level.rightDecided sequenceId
          have alike :=
            (orderStep_alike (decisions riskManager limits)
              (level.shows sequenceId) .drain).1
          rw [← own, ← other] at alike
          exact OrderReply.drained.inj alike
      simp only [System.step, drained, calls]
  | sendCancel request =>
      have own :=
        sendCancel_alone level.leftDecided.synchronised riskManager
          (fun _ => none) request
      have other :=
        sendCancel_alone level.rightDecided.synchronised riskManager
          (fun _ => none) request
      have alike :=
        (orderStep_alike (fun _ => none) (level.shows request.sequenceId)
          (.cancel request)).1
      exact
        congrArg Reply.cancelled
          (OrderReply.cancelled.inj (own.trans (alike.trans other.symm)))
  | sendAmend request =>
      have own :=
        sendAmend_alone level.leftDecided.synchronised riskManager
          (fun _ => none) request
      have other :=
        sendAmend_alone level.rightDecided.synchronised riskManager
          (fun _ => none) request
      have alike :=
        (orderStep_alike (fun _ => none) (level.shows request.sequenceId)
          (.amend request)).1
      exact
        congrArg Reply.amended
          (OrderReply.amended.inj (own.trans (alike.trans other.symm)))

end Systems

/-! ## A system that gets a call twice -/

section Twice

variable (risk : OrderRequest → Option RiskRejectReason)
  {system : System capacity} (decided : Decided limits system)
include decided

/-- An offer that finds no room does not make any. -/
theorem full_of_enqueue (riskManager : Bool) (request : OrderRequest)
    (full : system.pipeline.buffer.full = true) :
    (enqueue (tracked riskManager) system request).2.pipeline.buffer.full =
      true := by
  have refused : (enqueue (tracked riskManager) system request).1 = false := by
    rw [enqueue_accepted decided.synchronised, full, Bool.not_true,
      Bool.and_false]
  rw [RingBuffer.full_iff] at full ⊢
  rw [enqueue_contents, refused]
  exact full

omit decided in
/-- An offer is not taken in twice. -/
theorem enqueue_again (riskManager : Bool) (request : OrderRequest) :
    (enqueue (tracked riskManager)
      (enqueue (tracked riskManager) system request).2 request).1 =
      false := by
  rcases enqueue_cases (tracked riskManager) system request with
    ⟨tracker, known⟩ | unknown
  · rw [enqueue_of_known tracker known]
    have still :
        request.sequenceId ∈
          (refusedAsKnown system).lifecycleTracker.records :=
      known
    rw [enqueue_of_known tracker still]
  · cases room : system.pipeline.buffer.full with
    | true =>
        rw [enqueue_of_full unknown room]
        have still :
            (tracked riskManager).lifecycleTracker = true →
              request.sequenceId ∉
                (dropped system).lifecycleTracker.records :=
          unknown
        rw [enqueue_of_full still room]
    | false =>
        rw [enqueue_of_room unknown room]
        have known :
            request.sequenceId ∈
              (joined (tracked riskManager) system
                request).lifecycleTracker.records :=
          (mem_enqueued_records _ _ _).mpr (Or.inl rfl)
        rw [enqueue_of_known rfl known]

/-- A call that concerns an order gets to it twice, and shows once. -/
theorem seen_again {sequenceId : UInt64} {call : Call} {small : OrderCall}
    (concerns :
      callFor sequenceId (event (step (tracked riskManager)) system call) =
        some small)
    (shown : OrderView) :
    ∃ small',
      callFor sequenceId
            (event (step (tracked riskManager))
              (step (tracked riskManager) system call).2 call) =
          some small' ∧
        unreported
            (orderStep risk (orderStep risk shown small).2 small').2 =
          unreported (orderStep risk shown small).2 := by
  cases call with
  | enqueue request =>
      simp only [callFor, event, Option.ite_none_right_eq_some,
        Option.some.injEq] at concerns
      rcases concerns with ⟨own, rfl⟩
      refine ⟨_, if_pos own, ?_⟩
      rw [offer_again]
      intro full
      rw [Bool.not_eq_false'] at full ⊢
      exact full_of_enqueue decided riskManager request full
  | drain =>
      rcases Option.some.inj concerns with rfl
      exact ⟨_, rfl, congrArg unreported (drain_again shown)⟩
  | sendCancel request =>
      simp only [callFor, event, Option.ite_none_right_eq_some,
        Option.some.injEq] at concerns
      rcases concerns with ⟨own, rfl⟩
      exact ⟨_, if_pos own, congrArg unreported (cancel_again shown request)⟩
  | sendAmend request =>
      simp only [callFor, event, Option.ite_none_right_eq_some,
        Option.some.injEq] at concerns
      rcases concerns with ⟨own, rfl⟩
      exact ⟨_, if_pos own, amend_again shown request⟩

omit decided in
theorem unseen_again {sequenceId : UInt64} {call : Call}
    (silent :
      callFor sequenceId (event (step (tracked riskManager)) system call) =
        none) :
    callFor sequenceId
        (event (step (tracked riskManager))
          (step (tracked riskManager) system call).2 call) =
      none := by
  cases call with
  | enqueue request =>
      simp only [callFor, event, ite_eq_right_iff, reduceCtorEq] at silent ⊢
      exact silent
  | drain => contradiction
  | sendCancel request => exact silent
  | sendAmend request => exact silent

/-- The step lemma: a call that is delivered again shows at no order. -/
theorem level_again (riskManager : Bool) (call : Call) :
    Level limits
      (step (tracked riskManager) (step (tracked riskManager) system call).2
        call).2
      (step (tracked riskManager) system call).2 where
  leftDecided := (decided.step riskManager call).step riskManager call
  rightDecided := decided.step riskManager call
  contents := by
    cases call with
    | enqueue request =>
        simp only [System.step]
        rw [enqueue_contents, enqueue_again]
        rfl
    | drain =>
        have first := (drain_trace (tracked riskManager) system).1.orders.2
        have second :=
          (drain_trace (tracked riskManager)
            (drain (tracked riskManager) system).system).1.orders.2
        exact second.trans first.symm
    | sendCancel request => rfl
    | sendAmend request => rfl
  shows sequenceId := by
    have next := decided.step riskManager call
    cases concerns :
        callFor sequenceId
          (event (step (tracked riskManager)) system call) with
    | none => rw [step_unshown next (unseen_again concerns)]
    | some small =>
        rcases
          seen_again (decisions riskManager limits) decided concerns
            (view system sequenceId) with
          ⟨small', concerns', again⟩
        have once := (step_shown decided concerns).1
        have twice := (step_shown next concerns').1
        rw [once] at twice
        rw [once, twice, again]

end Twice

/-! ## Runs with redelivery -/

/-- Calls, each delivered once and then so many times again. -/
def delivered (deliveries : List (Call × Nat)) : List Call :=
  deliveries.flatMap fun delivery =>
    List.replicate (delivery.2 + 1) delivery.1

theorem level_replicate {left right : System capacity}
    (level : Level limits left right) (riskManager : Bool) (call : Call)
    (again : Nat) :
    Level limits
      (run (step (tracked riskManager)) left
        (List.replicate (again + 1) call))
      (step (tracked riskManager) right call).2 := by
  induction again with
  | zero => exact level.step riskManager call
  | succ again induction =>
      rw [List.replicate_succ', run_concat]
      exact
        (induction.step riskManager call).trans
          (level_again level.rightDecided riskManager call)

/-- The run lemma: systems stay level when calls are delivered again. -/
theorem level_run {left right : System capacity}
    (level : Level limits left right) (riskManager : Bool)
    (deliveries : List (Call × Nat)) :
    Level limits
      (run (step (tracked riskManager)) left (delivered deliveries))
      (TransitionRun.run (step (tracked riskManager)) right
        (deliveries.map Prod.fst)) := by
  induction deliveries generalizing left right with
  | nil => exact level
  | cons delivery deliveries induction =>
      rw [delivered, List.flatMap_cons, run_append, List.map_cons, run_cons]
      exact
        induction (level_replicate level riskManager delivery.1 delivery.2)

/-- What level systems hold is the same. -/
theorem Level.holds {left right : System capacity}
    (level : Level limits left right) :
    left.lifecycleTracker.records = right.lifecycleTracker.records ∧
      left.exchange = right.exchange := by
  constructor
  · apply Finmap.ext_lookup
    intro sequenceId
    exact congrArg OrderView.record (level.shows sequenceId)
  · have seen :
        left.exchange.seenSequenceIds = right.exchange.seenSequenceIds := by
      apply Finset.ext
      intro sequenceId
      exact
        decide_eq_decide.mp
          (congrArg OrderView.seen (level.shows sequenceId))
    have active :
        left.exchange.activeOrders = right.exchange.activeOrders := by
      apply Finmap.ext_lookup
      intro sequenceId
      exact congrArg OrderView.active (level.shows sequenceId)
    generalize left.exchange = first, right.exchange = second at seen active
    rcases first with ⟨⟩
    rcases second with ⟨⟩
    rw [ExchangeSimulator.mk.injEq]
    exact ⟨seen, active⟩

/--
Delivering calls at least once is delivering them exactly once.  However often
every call of a run is delivered in a row, the queue, the lifecycle records
and the exchange end as if each had been delivered once, and so does every
answer to what is called next.
-/
theorem run_redelivered (riskManager journal : Bool) (limits : RiskLimits)
    (deliveries : List (Call × Nat)) :
    let often : System capacity :=
      runFresh (tracked riskManager) limits journal (delivered deliveries)
    let once : System capacity :=
      runFresh (tracked riskManager) limits journal
        (deliveries.map Prod.fst)
    often.pipeline.buffer.contents = once.pipeline.buffer.contents ∧
      often.lifecycleTracker.records = once.lifecycleTracker.records ∧
      often.exchange = once.exchange ∧
      ∀ call,
        (step (tracked riskManager) often call).1 =
          (step (tracked riskManager) once call).1 := by
  intro often once
  have start :
      Level limits (fresh limits journal : System capacity)
        (fresh limits journal) :=
    Level.refl (Decided.fresh limits journal)
  have level := level_run start riskManager deliveries
  rcases level.holds with ⟨records, exchange⟩
  exact ⟨level.contents, records, exchange, level.answers riskManager⟩

end Llgw.Redelivery
