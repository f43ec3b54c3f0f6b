import Llgw.StepEffects

/-!
# Dispatch and the lifecycle

The calls of a tracked system interleaved with direct calls on its tracker.
`Drain` goes on to `SendOrder` when `MarkSent` has been refused, so an order
whose record has moved since it was queued is still dispatched.  The results
say exactly when every dispatch follows a legal transition.
-/

namespace Llgw.DispatchGuard

open Llgw.Foundation.KeyedStore
open Llgw.Foundation.TransitionRun
open Llgw.Messages
open Llgw.Buffer
open Llgw.Risk
open Llgw.Exchange
open Llgw.Lifecycle
open Llgw.LifecycleMarks
open Llgw.Gateway
open Llgw.Pipeline
open Llgw.System
open Llgw.StepEffects

variable {capacity : ℕ+} {riskManager : Bool}

/-- A call on the system, or a public call on its tracker. -/
inductive GuardCall where
  | system (call : Call)
  | tracker (call : TrackerCall)
deriving DecidableEq

inductive GuardReply where
  | system (reply : Reply)
  | tracker (succeeded : Bool)
deriving DecidableEq

/-- One call, from whichever caller. -/
def guardStep (wiring : Wiring) (system : System capacity) :
    GuardCall → GuardReply × System capacity
  | .system call =>
      let result := step wiring system call
      (.system result.1, result.2)
  | .tracker call =>
      let result := trackerStep system.lifecycleTracker call
      (.tracker result.1, { system with lifecycleTracker := result.2 })

/-- If the order reached `SendOrder`, `MarkSent` had succeeded. -/
def LegalDispatch (call : DrainCall) : Prop :=
  ∀ markSent state response,
    call.outcome = .dispatched markSent state response →
      markSent = true ∧ state = some .sent

/-- Whether the risk check, if there is one, lets an order through. -/
def Passes (riskManager : Bool) (system : System capacity)
    (order : OrderRequest) : Prop :=
  riskManager = true → system.riskManager.firstFailure order = none

/-- Every waiting order that the check lets through is still queued. -/
def Ready (riskManager : Bool) (system : System capacity) : Prop :=
  ∀ order ∈ system.pipeline.buffer.contents,
    Passes riskManager system order →
      system.lifecycleTracker.stateOf order.sequenceId = some .queued

/-! ## One iteration from an arbitrary state -/

section Iteration

variable (system : System capacity) (order : OrderRequest)

/-- The state after the attempt to mark an order sent. -/
def afterMarkSent (riskManager : Bool) : System capacity :=
  notify (tracked riskManager) system order.sequenceId .sent

/-- `dispatch` submits whatever `MarkSent` has answered. -/
theorem dispatch_tracked :
    dispatch (tracked riskManager) system order =
      (.dispatched
          (applyMark system.lifecycleTracker order.sequenceId .sent).1
          ((applyMark system.lifecycleTracker order.sequenceId
            .sent).2.stateOf order.sequenceId)
          (system.exchange.submitOrder order).1,
        notify (tracked riskManager)
          { afterMarkSent system order riskManager with
            gateway :=
              countSubmission (system.exchange.submitOrder order).1
                system.gateway
            exchange := (system.exchange.submitOrder order).2
            pipeline :=
              countOutcome (system.exchange.submitOrder order).1
                (afterMarkSent system order riskManager).pipeline }
          order.sequenceId
          (responseMark (system.exchange.submitOrder order).1)) := by
  have submitted :
      sendOrder (tracked riskManager).venue
          (afterMarkSent system order riskManager).toVenue order = _ :=
    sendOrder_of_exchange rfl order
  simp only [afterMarkSent] at submitted
  simp only [dispatch, submitted]
  rfl

theorem stateOf_notify_of_ne {other sequenceId : UInt64}
    (different : other ≠ sequenceId) (mark : Mark) :
    (notify (tracked riskManager) system sequenceId
        mark).lifecycleTracker.stateOf other =
      system.lifecycleTracker.stateOf other :=
  stateOf_applyMark_of_ne _ _ _ _ different

theorem mem_notify_records (sequenceId other : UInt64) (mark : Mark) :
    other ∈ (notify (tracked riskManager) system sequenceId
        mark).lifecycleTracker.records ↔
      other ∈ system.lifecycleTracker.records :=
  mem_applyMark_records _ _ _ _

/-- An order that fails the check. -/
theorem drainOrder_tracked_failure {reason : RiskRejectReason}
    (checks : riskManager = true)
    (failure : system.riskManager.firstFailure order = some reason) :
    drainOrder (tracked riskManager) system order =
      (.riskRejected reason,
        notify (tracked riskManager)
          { system with
            riskManager := system.riskManager.afterReject reason
            pipeline := countRiskReject reason system.pipeline }
          order.sequenceId (.riskRejected reason)) := by
  simp only [drainOrder, tracked, checks, if_true,
    PreTradeRiskManager.check_of_failure failure, Bool.not_false]

/-- An order that the check, if there is one, lets through. -/
theorem drainOrder_tracked_pass
    (passes : Passes riskManager system order) :
    drainOrder (tracked riskManager) system order =
      dispatch (tracked riskManager)
        { system with
          riskManager :=
            passedManager (tracked riskManager) system.riskManager }
        order := by
  apply drainOrder_of_pass
  intro checks
  exact passes checks

/-- The two ways an iteration can go. -/
theorem drainOrder_tracked_cases :
    (∃ reason, riskManager = true ∧
        system.riskManager.firstFailure order = some reason) ∨
      Passes riskManager system order := by
  cases failure : system.riskManager.firstFailure order with
  | none => exact Or.inr fun _ => failure
  | some reason =>
      cases riskManager with
      | false => exact Or.inr fun checks => nomatch checks
      | true => exact Or.inl ⟨reason, rfl, rfl⟩

/-- Processing an order touches no other record and no limit. -/
structure Framed (before after : System capacity) (order : OrderRequest) :
    Prop where
  state :
    ∀ other, other ≠ order.sequenceId →
      after.lifecycleTracker.stateOf other =
        before.lifecycleTracker.stateOf other
  records :
    ∀ other, other ∈ after.lifecycleTracker.records ↔
      other ∈ before.lifecycleTracker.records
  decides :
    after.riskManager.firstFailure = before.riskManager.firstFailure

variable (riskManager) in
theorem dispatch_framed :
    Framed system (dispatch (tracked riskManager) system order).2 order := by
  rw [dispatch_tracked]
  constructor
  · intro other different
    rw [stateOf_notify_of_ne _ different]
    exact stateOf_notify_of_ne _ different _
  · intro other
    rw [mem_notify_records]
    exact mem_notify_records _ _ _ _
  · rfl

variable (riskManager) in
theorem drainOrder_framed :
    Framed system (drainOrder (tracked riskManager) system order).2
      order := by
  rcases drainOrder_tracked_cases system order with
    ⟨reason, checks, failure⟩ | passes
  · rw [drainOrder_tracked_failure system order checks failure]
    constructor
    · intro other different
      exact stateOf_notify_of_ne _ different _
    · intro other
      exact mem_notify_records _ _ _ _
    · exact PreTradeRiskManager.afterReject_firstFailure _ _
  · rw [drainOrder_tracked_pass system order passes]
    have framed :=
      dispatch_framed riskManager
        { system with
          riskManager :=
            passedManager (tracked riskManager) system.riskManager }
        order
    exact
      ⟨framed.state, framed.records,
        framed.decides.trans (passedManager_firstFailure _ _)⟩

variable (riskManager) in
/-- An iteration is legal exactly if an order let through is queued. -/
theorem drainOrder_legal_iff :
    LegalDispatch
        { order := order
          outcome :=
            (drainOrder (tracked riskManager) system order).1 } ↔
      (Passes riskManager system order →
        system.lifecycleTracker.stateOf order.sequenceId =
          some .queued) := by
  rcases drainOrder_tracked_cases system order with
    ⟨reason, checks, failure⟩ | passes
  · rw [drainOrder_tracked_failure system order checks failure]
    constructor
    · intro _ passes
      rw [passes checks] at failure
      contradiction
    · intro _ markSent state response dispatched
      contradiction
  · rw [drainOrder_tracked_pass system order passes, dispatch_tracked]
    constructor
    · intro legal _
      exact (applyMark_sent_iff _ _).mp (legal _ _ _ rfl)
    · intro queued markSent state response dispatched
      rcases DrainOutcome.dispatched.inj dispatched with ⟨rfl, rfl, _⟩
      exact (applyMark_sent_iff _ _).mpr (queued passes)

variable (riskManager) in
/-- What becomes active in an iteration was dispatched and accepted. -/
theorem drainOrder_activates (sequenceId : UInt64)
    (active :
      sequenceId ∈
        (drainOrder (tracked riskManager) system
          order).2.exchange.activeOrders)
    (inactive : sequenceId ∉ system.exchange.activeOrders) :
    order.sequenceId = sequenceId ∧
      ∃ markSent state response,
        (drainOrder (tracked riskManager) system order).1 =
            .dispatched markSent state response ∧
          response.accepted = true := by
  rcases drainOrder_tracked_cases system order with
    ⟨reason, checks, failure⟩ | passes
  · rw [drainOrder_tracked_failure system order checks failure] at active
    exact absurd active inactive
  · rw [drainOrder_tracked_pass system order passes, dispatch_tracked] at active ⊢
    have stored :
        sequenceId ∈
          (system.exchange.submitOrder order).2.activeOrders :=
      active
    by_cases accepts :
        ValidOrder order ∧
          order.sequenceId ∉ system.exchange.seenSequenceIds
    · refine ⟨?_, _, _, _, rfl, ?_⟩
      · rw [ExchangeSimulator.submitOrder_of_accepts accepts.1 accepts.2]
          at stored
        rcases mem_emplace.mp stored with same | old
        · exact same.symm
        · exact absurd old inactive
      · exact (ExchangeSimulator.submitOrder_accepted_iff order).mpr accepts
    · obtain ⟨reason, _, _, answer⟩ :=
        ExchangeSimulator.submitOrder_of_rejects accepts
      rw [answer] at stored
      exact absurd stored inactive

end Iteration

/-! ## A whole drain -/

section Drain

variable {system final : System capacity} {calls : List DrainCall}

/-- The first iteration of a drain, from the state before the pop. -/
theorem drainStep_tracked_inv
    {call : DrainCall} {next : System capacity}
    (head : drainStep (tracked riskManager) system = some (call, next)) :
    ∃ rest,
      system.pipeline.buffer.contents = call.order :: rest ∧
        next.pipeline.buffer.contents = rest ∧
        Framed system next call.order ∧
        (LegalDispatch call ↔
          (Passes riskManager system call.order →
            system.lifecycleTracker.stateOf call.order.sequenceId =
              some .queued)) := by
  rcases drainStep_inv head with ⟨rest, queue, remaining, processed⟩
  have framed :=
    drainOrder_framed riskManager
      (popped system (restBuffer system)) call.order
  have legal :=
    drainOrder_legal_iff riskManager
      (popped system (restBuffer system)) call.order
  rw [processed] at framed legal
  exact
    ⟨rest, queue, remaining,
      ⟨framed.state, framed.records, framed.decides⟩, legal⟩

/-- An iteration does not change whether a later order is ready. -/
theorem Framed.passes_iff
    {next : System capacity} {order : OrderRequest}
    (framed : Framed system next order) (other : OrderRequest) :
    Passes riskManager next other ↔ Passes riskManager system other := by
  unfold Passes
  rw [framed.decides]

/--
With distinct ids in the queue, all dispatches of a drain are legal exactly
if the queue was ready when the drain began.
-/
theorem drainTrace_legal_iff
    (trace : DrainTrace (tracked riskManager) system calls final)
    (distinct : system.queuedIds.Nodup) :
    (∀ call ∈ calls, LegalDispatch call) ↔ Ready riskManager system := by
  induction trace with
  | done drained => simp [Ready, drained]
  | @step system next final call calls head _ induction =>
      obtain ⟨rest, queue, remaining, framed, legal⟩ :=
        drainStep_tracked_inv head
      have ids :
          system.queuedIds =
            call.order.sequenceId :: rest.map OrderRequest.sequenceId := by
        rw [System.queuedIds, queue, List.map_cons]
      have others : next.queuedIds = rest.map OrderRequest.sequenceId := by
        rw [System.queuedIds, remaining]
      rw [ids, List.nodup_cons, ← others] at distinct
      have later : Ready riskManager next ↔
          ∀ order ∈ rest, Passes riskManager system order →
            system.lifecycleTracker.stateOf order.sequenceId =
              some .queued := by
        unfold Ready
        rw [remaining]
        refine forall₂_congr fun order member => ?_
        have different : order.sequenceId ≠ call.order.sequenceId := by
          intro same
          refine distinct.1 ?_
          rw [others, ← same]
          exact List.mem_map_of_mem member
        rw [framed.passes_iff order,
          framed.state order.sequenceId different]
      rw [List.forall_mem_cons, legal, induction distinct.2, later, Ready,
        queue, List.forall_mem_cons]

/-- The order was dispatched with this id and the exchange accepted it. -/
def Accepts (sequenceId : UInt64) (call : DrainCall) : Prop :=
  call.order.sequenceId = sequenceId ∧
    ∃ markSent state response,
      call.outcome = .dispatched markSent state response ∧
        response.accepted = true

/-- What becomes active during a drain was dispatched and accepted by it. -/
theorem drainTrace_activates
    (trace : DrainTrace (tracked riskManager) system calls final)
    {sequenceId : UInt64}
    (active : sequenceId ∈ final.exchange.activeOrders)
    (inactive : sequenceId ∉ system.exchange.activeOrders) :
    ∃ call ∈ calls, Accepts sequenceId call := by
  induction trace with
  | done _ => exact absurd active inactive
  | @step system next final call calls head _ induction =>
      by_cases now : sequenceId ∈ next.exchange.activeOrders
      · rcases drainStep_inv head with ⟨rest, _, _, processed⟩
        have activates :=
          drainOrder_activates riskManager
            (popped system (restBuffer system)) call.order sequenceId
        rw [processed] at activates
        exact ⟨call, List.mem_cons_self, activates now inactive⟩
      · rcases induction active now with ⟨later, member, accepts⟩
        exact ⟨later, List.mem_cons_of_mem _ member, accepts⟩

end Drain

/-! ## The calls that dispatch nothing -/

section Actions

variable {Response : Type} (venue : Venue) (path : ActionPath Response)

/-- An action adds and removes no record. -/
theorem mem_sendAction_records (sequenceId : UInt64) :
    sequenceId ∈
        (sendAction (tracked riskManager).venue venue
          path).2.lifecycleTracker.records ↔
      sequenceId ∈ venue.lifecycleTracker.records := by
  simp only [sendAction, track, tracked, if_true]
  split
  · exact mem_applyMark_records _ _ _ _
  · exact (mem_applyMark_records _ _ _ _).trans
      (mem_applyMark_records _ _ _ _)

/-- An action whose exchange call activates nothing activates nothing. -/
theorem mem_sendAction_activeOrders
    (still :
      ∀ exchange sequenceId,
        sequenceId ∈ (path.execute exchange).2.activeOrders →
          sequenceId ∈ exchange.activeOrders)
    {sequenceId : UInt64}
    (active :
      sequenceId ∈
        (sendAction (tracked riskManager).venue venue
          path).2.exchange.activeOrders) :
    sequenceId ∈ venue.exchange.activeOrders := by
  simp only [sendAction, executed, tracked, if_true] at active
  split at active
  · exact active
  · exact still _ _ active

end Actions

theorem cancelPath_still
    (request : CancelRequest) (exchange : ExchangeSimulator)
    (sequenceId : UInt64)
    (active :
      sequenceId ∈
        ((cancelPath request).execute exchange).2.activeOrders) :
    sequenceId ∈ exchange.activeOrders := by
  simp only [cancelPath] at active
  cases found : exchange.activeOrders.lookup request.sequenceId with
  | none =>
      rw [ExchangeSimulator.cancelOrder_of_inactive found] at active
      exact active
  | some order =>
      rw [ExchangeSimulator.cancelOrder_of_active found] at active
      exact (Finmap.mem_erase.mp active).2

theorem amendPath_still
    (request : AmendRequest) (exchange : ExchangeSimulator)
    (sequenceId : UInt64)
    (active :
      sequenceId ∈
        ((amendPath request).execute exchange).2.activeOrders) :
    sequenceId ∈ exchange.activeOrders := by
  simp only [amendPath] at active
  cases found : exchange.activeOrders.lookup request.sequenceId with
  | none =>
      rw [ExchangeSimulator.amendOrder_of_inactive found] at active
      exact active
  | some order =>
      by_cases valid : ValidAmend request
      · rw [ExchangeSimulator.amendOrder_of_accepts found valid] at active
        rcases Finmap.mem_insert.mp active with rfl | old
        · exact Finmap.mem_of_lookup_eq_some found
        · exact old
      · obtain ⟨_, _, _, _, result⟩ :=
          ExchangeSimulator.amendOrder_of_invalid found valid
        rw [result] at active
        exact active

/-! ## Runs -/

/-- The ids in the queue are distinct, and the tracker knows them. -/
structure QueueKnown (system : System capacity) : Prop where
  distinct : system.queuedIds.Nodup
  known :
    ∀ sequenceId ∈ system.queuedIds,
      sequenceId ∈ system.lifecycleTracker.records

theorem queueKnown_fresh (limits : RiskLimits) (journal : Bool) :
    QueueKnown (fresh limits journal : System capacity) where
  distinct := List.nodup_nil
  known := by
    intro sequenceId member
    cases member

/-- A call that keeps the queue and forgets no record keeps the invariant. -/
theorem QueueKnown.of_unchanged
    {system next : System capacity} (start : QueueKnown system)
    (queue : next.queuedIds = system.queuedIds)
    (records :
      ∀ sequenceId ∈ system.lifecycleTracker.records,
        sequenceId ∈ next.lifecycleTracker.records) :
    QueueKnown next where
  distinct := by
    rw [queue]
    exact start.distinct
  known := by
    rw [queue]
    intro sequenceId member
    exact records sequenceId (start.known sequenceId member)

variable (riskManager) in
/-- `Enqueue` adds an order that the tracker did not know, or nothing. -/
theorem enqueue_guarded
    {system : System capacity} (start : QueueKnown system)
    (request : OrderRequest) :
    QueueKnown (enqueue (tracked riskManager) system request).2 ∧
      (enqueue (tracked riskManager) system request).2.exchange =
        system.exchange := by
  by_cases known : request.sequenceId ∈ system.lifecycleTracker.records
  · rw [enqueue_of_known rfl known]
    exact ⟨start.of_unchanged rfl fun _ member => member, rfl⟩
  · cases room : system.pipeline.buffer.full with
    | true =>
        rw [enqueue_of_full (fun _ => known) room]
        exact ⟨start.of_unchanged rfl fun _ member => member, rfl⟩
    | false =>
        rw [enqueue_of_room (fun _ => known) room]
        have queue :
            (joined (tracked riskManager) system request).queuedIds =
              system.queuedIds ++ [request.sequenceId] := by
          simp only [System.queuedIds, joined,
            RingBuffer.contents_push room, List.map_append, List.map_cons,
            List.map_nil]
        have records :
            ∀ sequenceId,
              sequenceId ∈
                  (joined (tracked riskManager) system
                    request).lifecycleTracker.records ↔
                sequenceId = request.sequenceId ∨
                  sequenceId ∈ system.lifecycleTracker.records := by
          intro sequenceId
          exact mem_enqueued_records _ _ _
        refine ⟨⟨?_, ?_⟩, rfl⟩
        · rw [queue, ← List.concat_eq_append, List.nodup_concat]
          exact
            ⟨fun member => known (start.known _ member),
              start.distinct⟩
        · rw [queue]
          intro sequenceId member
          rw [records]
          rcases List.mem_append.mp member with old | new
          · exact Or.inr (start.known sequenceId old)
          · exact Or.inl (List.mem_singleton.mp new)

abbrev GuardEvent (capacity : ℕ+) : Type :=
  Event (System capacity) GuardCall GuardReply

/--
Every order that a call dispatched had been marked sent, and every order that
it made active was one of these.
-/
structure Guarded (event : GuardEvent capacity) : Prop where
  dispatches :
    ∀ drainedNow calls,
      event.output = .system (.drained drainedNow calls) →
        ∀ call ∈ calls, LegalDispatch call
  activations :
    ∀ sequenceId ∈ event.after.exchange.activeOrders,
      sequenceId ∉ event.before.exchange.activeOrders →
        ∃ drainedNow calls,
          event.output = .system (.drained drainedNow calls) ∧
            ∃ call ∈ calls,
              Accepts sequenceId call ∧ LegalDispatch call

/-- The event of one call in an interleaving. -/
abbrev guardEvent (riskManager : Bool) (system : System capacity)
    (call : GuardCall) : GuardEvent capacity :=
  event (guardStep (tracked riskManager)) system call

/-- A call other than `Drain` that activates nothing is guarded. -/
theorem guarded_of_still
    {system : System capacity} {call : GuardCall}
    (other : call ≠ .system .drain)
    (still :
      ∀ sequenceId,
        sequenceId ∈
            (guardEvent riskManager system call).after.exchange.activeOrders →
          sequenceId ∈ system.exchange.activeOrders) :
    Guarded (guardEvent riskManager system call) where
  dispatches := by
    intro drainedNow calls output
    cases call with
    | system call =>
        cases call with
        | drain => contradiction
        | _ => cases output
    | tracker _ => cases output
  activations := by
    intro sequenceId active inactive
    exact absurd (still sequenceId active) inactive

/-- A drain is guarded exactly if the queue was ready. -/
theorem drain_guarded_iff
    {system : System capacity} (start : QueueKnown system) :
    Guarded (guardEvent riskManager system (.system .drain)) ↔
      Ready riskManager system := by
  have trace := (drain_trace (tracked riskManager) system).1
  have legal := drainTrace_legal_iff trace start.distinct
  constructor
  · intro guarded
    exact legal.mp (guarded.dispatches _ _ rfl)
  · intro ready
    constructor
    · intro drainedNow calls output
      obtain ⟨_, rfl⟩ :=
        Reply.drained.inj (GuardReply.system.inj output)
      exact legal.mpr ready
    · intro sequenceId active inactive
      obtain ⟨call, member, accepts⟩ :=
        drainTrace_activates trace active inactive
      exact
        ⟨_, _, rfl, call, member, accepts, legal.mpr ready call member⟩

/-- A call keeps the invariant of the queue. -/
theorem guardStep_queueKnown
    (system : System capacity) (call : GuardCall)
    (start : QueueKnown system) :
    QueueKnown (guardStep (tracked riskManager) system call).2 := by
  cases call with
  | system call =>
      cases call with
      | enqueue request =>
          exact (enqueue_guarded riskManager start request).1
      | drain =>
          have drained :=
            (drain_trace (tracked riskManager) system).1.orders.2
          have queue :
              (drain (tracked riskManager) system).system.queuedIds =
                [] := by
            rw [System.queuedIds, drained, List.map_nil]
          constructor
          · exact queue ▸ List.nodup_nil
          · intro sequenceId member
            rw [guardStep, step, queue] at member
            cases member
      | sendCancel request =>
          refine start.of_unchanged rfl ?_
          intro sequenceId member
          exact (mem_sendAction_records _ _ _).mpr member
      | sendAmend request =>
          refine start.of_unchanged rfl ?_
          intro sequenceId member
          exact (mem_sendAction_records _ _ _).mpr member
  | tracker call =>
      refine start.of_unchanged rfl ?_
      intro sequenceId member
      exact mem_trackerStep_records system.lifecycleTracker call member

/-- Only a drain of a queue that is not ready can be unguarded. -/
theorem guardStep_guarded_iff
    (system : System capacity) (call : GuardCall)
    (start : QueueKnown system) :
    Guarded (guardEvent riskManager system call) ↔
      (call = .system .drain → Ready riskManager system) := by
  by_cases drains : call = .system .drain
  · subst drains
    simpa using drain_guarded_iff start
  · refine iff_of_true ?_ (fun same => absurd same drains)
    refine guarded_of_still drains ?_
    intro sequenceId active
    cases call with
    | system call =>
        cases call with
        | enqueue request =>
            have same :=
              (enqueue_guarded riskManager start request).2
            exact same ▸ active
        | drain => contradiction
        | sendCancel request =>
            exact
              mem_sendAction_activeOrders _ _ (cancelPath_still request)
                active
        | sendAmend request =>
            exact
              mem_sendAction_activeOrders _ _ (amendPath_still request)
                active
    | tracker _ => exact active

/--
In a run of calls from the pipeline, the gateway and the tracker in any
order, every dispatch follows a successful `MarkSent` exactly if at every
drain the orders that the check lets through are still queued.
-/
theorem run_dispatch_legal_iff
    (riskManager : Bool) (limits : RiskLimits) (journal : Bool)
    (calls : List GuardCall) :
    (∀ entry ∈
        events (guardStep (tracked riskManager))
          (fresh limits journal : System capacity) calls,
      Guarded entry) ↔
      ∀ entry ∈
        events (guardStep (tracked riskManager))
          (fresh limits journal : System capacity) calls,
        entry.input = .system .drain → Ready riskManager entry.before := by
  have each :
      ∀ entry ∈
        events (guardStep (tracked riskManager))
          (fresh limits journal : System capacity) calls,
        (Guarded entry ↔
          (entry.input = .system .drain →
            Ready riskManager entry.before)) :=
    events_forall (guardStep (tracked riskManager)) QueueKnown
      (fun entry =>
        Guarded entry ↔
          (entry.input = .system .drain → Ready riskManager entry.before))
      (queueKnown_fresh limits journal) guardStep_queueKnown
      guardStep_guarded_iff calls
  exact forall₂_congr each

/-- A valid order. -/
def strayOrder : OrderRequest where
  sequenceId := 7
  symbol := .ofView (text "TEST")
  side := .buy
  price := 100.0
  quantity := 25

/-- The order is queued, its record is moved by hand, and it is drained. -/
def strayCalls : List GuardCall :=
  [.system (.enqueue strayOrder),
    .tracker (.mark 7 (.riskRejected .quantityLimit)),
    .system .drain]

/-- What the drain of the stray order does. -/
def strayCall : DrainCall where
  order := strayOrder
  outcome :=
    .dispatched false (some .riskRejected)
      { sequenceId := 7, accepted := true, rejectReason := .none }

/--
An order whose record is risk-rejected is dispatched all the same, and rests
at the exchange.
-/
theorem stray_order_dispatched :
    (run (guardStep (tracked false)) (fresh {} false : System 4)
        strayCalls).exchange.findActiveOrder 7 = some strayOrder ∧
      (run (guardStep (tracked false)) (fresh {} false : System 4)
        strayCalls).lifecycleTracker.stateOf 7 = some .riskRejected ∧
      ¬ ∀ entry ∈
          events (guardStep (tracked false)) (fresh {} false : System 4)
            strayCalls,
        Guarded entry := by
  refine ⟨by decide, by decide, fun guarded => ?_⟩
  have drained :
      .system (.drained 1 [strayCall]) ∈
        outputs (guardStep (tracked false)) (fresh {} false : System 4)
          strayCalls := by
    decide
  rcases List.mem_map.mp drained with ⟨entry, member, output⟩
  have legal :=
    (guarded entry member).dispatches 1 [strayCall] output strayCall
      List.mem_cons_self
  exact absurd (legal _ _ _ rfl).1 Bool.false_ne_true

end Llgw.DispatchGuard
