import Llgw.Effects

/-!
# Runs of a tracked system are traces of effects

Every call on a synchronised system is a chain of effects, so invariants of
whole runs are proved one effect at a time.  The first of them is the
three-way synchronisation of buffer, tracker and exchange.
-/

namespace Llgw.Synchronisation

open Llgw.Foundation.KeyedStore
open Llgw.Foundation.LabelledTrace
open Llgw.Messages
open Llgw.Risk
open Llgw.Exchange
open Llgw.Lifecycle
open Llgw.LifecycleMarks
open Llgw.Gateway
open Llgw.Pipeline
open Llgw.System
open Llgw.OrderAgreement
open Llgw.StepEffects
open Llgw.Effects

variable {capacity : ℕ+} {riskManager : Bool} {system : System capacity}

/-! ## Every call is a chain of effects -/

theorem enqueue_effect (riskManager : Bool) (system : System capacity)
    (request : OrderRequest) :
    Effect riskManager system
      (.enqueued request (enqueue (tracked riskManager) system request).1)
      (enqueue (tracked riskManager) system request).2 := by
  by_cases known : request.sequenceId ∈ system.lifecycleTracker.records
  · rw [enqueue_of_known rfl known]
    exact .refusedAsKnown known
  · cases room : system.pipeline.buffer.full with
    | true =>
        rw [enqueue_of_full (fun _ => known) room]
        exact .dropped known room
    | false =>
        rw [enqueue_of_room (fun _ => known) room]
        exact .joined known room

theorem stateOf_sent {tracker : OrderLifecycleTracker}
    (sequenceId : UInt64) (record : OrderLifecycleRecord) :
    (markedIf (tracked riskManager).lifecycleTracker tracker sequenceId
        record .sent).stateOf sequenceId = some .sent := by
  have phases := stateOf_marked tracker sequenceId record .sent
  exact (congrFun phases sequenceId).trans (Function.update_self _ _ _)

theorem submitted_of_accepted {order : OrderRequest}
    (record : OrderLifecycleRecord)
    (answer :
      system.exchange.submitOrder order =
        ({ sequenceId := order.sequenceId, accepted := true,
           rejectReason := .none },
          { seenSequenceIds :=
              insert order.sequenceId system.exchange.seenSequenceIds
            activeOrders :=
              system.exchange.activeOrders.insert order.sequenceId
                order })) :
    submitted (tracked riskManager) system order record =
      acceptedOrder system order record := by
  simp only [submitted, answer]
  rfl

theorem submitted_of_rejected {order : OrderRequest}
    (record : OrderLifecycleRecord) {reason : OrderRejectReason}
    (answer :
      system.exchange.submitOrder order =
        ({ sequenceId := order.sequenceId, accepted := false,
           rejectReason := reason }, system.exchange)) :
    submitted (tracked riskManager) system order record =
      rejectedOrder system order record reason := by
  simp only [submitted, answer]
  rfl

/-- Processing the head of the queue of a synchronised system. -/
theorem drainOrder_effect
    (riskManager : Bool) (synchronised : Synchronised system)
    {order : OrderRequest} {rest : List OrderRequest}
    (queue : system.pipeline.buffer.contents = order :: rest) :
    Effect riskManager system
      (.drained
        { order := order
          outcome :=
            (drainOrder (tracked riskManager)
              (popped system (restBuffer system)) order).1 })
      (drainOrder (tracked riskManager)
        (popped system (restBuffer system)) order).2 := by
  rcases synchronised.waiting queue with ⟨record, found, state⟩
  by_cases passes :
      riskManager = true → system.riskManager.firstFailure order = none
  · have unseen := synchronised.unseen queue
    have passed :
        drainOrder (tracked riskManager)
            (popped system (restBuffer system)) order =
          dispatch (tracked riskManager) (passedOn riskManager system)
            order :=
      drainOrder_of_pass passes
    have waiting :
        Waiting (tracked riskManager)
          (passedOn riskManager system).lifecycleTracker
          order.sequenceId record :=
      ⟨fun _ => found, fun _ => state⟩
    rw [passed, dispatch_of_waiting rfl rfl waiting, stateOf_sent]
    by_cases valid : ValidOrder order
    · have answer :
          (passedOn riskManager system).exchange.submitOrder order = _ :=
        ExchangeSimulator.submitOrder_of_accepts valid unseen
      rw [emplace_of_notMem] at answer
      · rw [submitted_of_accepted record answer, answer]
        exact .acceptedOrder queue found passes valid
      · exact synchronised.inactive queue
    · have refused :
          ¬ (ValidOrder order ∧
            order.sequenceId ∉
              (passedOn riskManager system).exchange.seenSequenceIds) :=
        fun accepts => valid accepts.1
      obtain ⟨reason, given, duplicate, answer⟩ :=
        ExchangeSimulator.submitOrder_of_rejects refused
      rw [submitted_of_rejected record answer, answer]
      exact .rejectedOrder queue found passes valid given
        fun equal => valid (duplicate.mp equal)
  · rcases Classical.not_imp.mp passes with ⟨checks, fails⟩
    rcases Option.ne_none_iff_exists'.mp fails with ⟨reason, failure⟩
    have waiting :
        Waiting (tracked riskManager)
          (popped system (restBuffer system)).lifecycleTracker
          order.sequenceId record :=
      ⟨fun _ => found, fun _ => state⟩
    have failed :
        (popped system (restBuffer system)).riskManager.firstFailure
          order = some reason :=
      failure
    rw [drainOrder_of_failure checks failed waiting]
    exact .refusedByRisk queue found checks failure

/-- An action on an order that is not accepted is refused by the tracker. -/
theorem sendAction_of_illegal (riskManager : Bool) {Response : Type}
    {path : ActionPath Response}
    (cyclic : path.Cyclic)
    (illegal :
      system.lifecycleTracker.stateOf path.sequenceId ≠
        some .exchangeAccepted) :
    ∃ error, ActionError error ∧
      sendAction (tracked riskManager).venue system.toVenue path =
        (path.refusal, (refusedAction system path error).toVenue) := by
  rcases applyMark_cases system.lifecycleTracker path.sequenceId
    path.pendingMark with
    ⟨record, legal, _⟩ | ⟨_, error, given, known, result⟩
  · refine absurd ((stateOf_eq_some_iff _ _).mpr ?_) illegal
    exact ⟨record, legal.found, legal.state.trans cyclic.pendingSource⟩
  · exact ⟨error, ⟨given, known⟩, sendAction_of_refused rfl result⟩

/-- An action on an accepted order reaches the exchange. -/
theorem sendAction_of_accepted {Response : Type}
    {path : ActionPath Response}
    (cyclic : path.Cyclic)
    {record : OrderLifecycleRecord}
    (found :
      system.lifecycleTracker.records.lookup path.sequenceId =
        some record)
    (accepted : record.state = .exchangeAccepted) :
    sendAction (tracked riskManager).venue system.toVenue path =
      ((path.execute system.exchange).1,
        { gateway :=
            path.countResponse (path.execute system.exchange).1
              system.gateway
          exchange := (path.execute system.exchange).2
          lifecycleTracker :=
            completed system.lifecycleTracker path.sequenceId record
              path.pendingMark
              (path.completingMark (path.execute system.exchange).1) }) :=
  sendAction_of_legal cyclic rfl
    ⟨found, accepted.trans cyclic.pendingSource.symm, cyclic.pendingReason⟩

theorem sendCancel_effect
    (synchronised : Synchronised system) (request : CancelRequest) :
    Effect riskManager system
      (.cancelled request
        (sendCancel (tracked riskManager).venue system.toVenue request).1)
      { system with
        toVenue :=
          (sendCancel (tracked riskManager).venue system.toVenue
            request).2 } := by
  have cyclic := cancelPath_cyclic request
  by_cases state :
      system.lifecycleTracker.stateOf request.sequenceId =
        some .exchangeAccepted
  · rcases (stateOf_eq_some_iff _ _).mp state with ⟨record, found, accepted⟩
    rcases synchronised.active found accepted with ⟨order, active⟩
    have answer := ExchangeSimulator.cancelOrder_of_active active
    have executes :
        (cancelPath request).execute system.exchange = _ := answer
    rw [sendCancel, sendAction_of_accepted cyclic found accepted, executes]
    exact .cancelledOrder found accepted
  · obtain ⟨error, actionError, result⟩ :=
      sendAction_of_illegal riskManager cyclic state
    rw [sendCancel, result]
    exact .cancelRefused state actionError

theorem sendAmend_effect
    (synchronised : Synchronised system) (request : AmendRequest) :
    Effect riskManager system
      (.amended request
        (sendAmend (tracked riskManager).venue system.toVenue request).1)
      { system with
        toVenue :=
          (sendAmend (tracked riskManager).venue system.toVenue
            request).2 } := by
  have cyclic := amendPath_cyclic request
  by_cases state :
      system.lifecycleTracker.stateOf request.sequenceId =
        some .exchangeAccepted
  · rcases (stateOf_eq_some_iff _ _).mp state with ⟨record, found, accepted⟩
    rcases synchronised.active found accepted with ⟨order, active⟩
    rw [sendAmend, sendAction_of_accepted cyclic found accepted]
    by_cases valid : ValidAmend request
    · have executes :
          (amendPath request).execute system.exchange = _ :=
        ExchangeSimulator.amendOrder_of_accepts active valid
      rw [executes]
      exact .acceptedAmend found accepted active valid
    · obtain ⟨reason, given, known, permitted, answer⟩ :=
        ExchangeSimulator.amendOrder_of_invalid active valid
      have executes :
          (amendPath request).execute system.exchange = _ := answer
      rw [executes]
      exact .rejectedAmend found accepted given known permitted
  · obtain ⟨error, actionError, result⟩ :=
      sendAction_of_illegal riskManager cyclic state
    rw [sendAmend, result]
    exact .amendRefused state actionError

/-! ## Runs are traces of effects -/

theorem drainStep_effect
    (synchronised : Synchronised system)
    {call : DrainCall} {next : System capacity}
    (head : drainStep (tracked riskManager) system = some (call, next)) :
    Effect riskManager system (.drained call) next := by
  rcases drainStep_inv head with ⟨rest, queue, _, processed⟩
  have effect : Effect riskManager system _ _ :=
    drainOrder_effect riskManager synchronised queue
  rw [processed] at effect
  exact effect

theorem drain_effects {calls : List DrainCall}
    {final : System capacity}
    (trace : DrainTrace (tracked riskManager) system calls final)
    (synchronised : Synchronised system) :
    Trace (Effect riskManager) system (calls.map .drained) final := by
  induction trace with
  | done _ => exact .nil
  | step head _ induction =>
      have effect := drainStep_effect synchronised head
      exact .cons effect (induction (effect.synchronised synchronised))

/-- A call on a synchronised system is a trace of effects. -/
theorem step_effects (synchronised : Synchronised system)
    (call : Call) :
    Trace (Effect riskManager) system
      (observations call (step (tracked riskManager) system call).1)
      (step (tracked riskManager) system call).2 := by
  cases call with
  | enqueue request => exact .single (enqueue_effect riskManager system request)
  | drain => exact drain_effects (drain_trace _ system).1 synchronised
  | sendCancel request =>
      exact .single (sendCancel_effect synchronised request)
  | sendAmend request =>
      exact .single (sendAmend_effect synchronised request)

/-- Every run of fresh components is a trace of effects. -/
theorem runFresh_trace (limits : RiskLimits) (journal : Bool)
    (calls : List Call) :
    Trace (Effect riskManager) (fresh limits journal : System capacity)
      (observedFresh capacity (tracked riskManager) limits journal calls)
      (runFresh (tracked riskManager) limits journal calls) :=
  run_trace Synchronised
    (fun _ _ _ effect synchronised => effect.synchronised synchronised)
    (fun _ call synchronised => step_effects synchronised call)
    (Synchronised.fresh limits journal) calls

/-- The run lemma: a system with a tracker is synchronised after every call. -/
theorem runFresh_synchronised (limits : RiskLimits) (journal : Bool)
    (calls : List Call) :
    Synchronised
      (runFresh (tracked riskManager) limits journal calls :
        System capacity) :=
  (runFresh_trace limits journal calls).invariant Synchronised
    (fun _ _ _ effect synchronised => effect.synchronised synchronised)
    (Synchronised.fresh limits journal)

/--
The invariant rule of a tracked system: a property of what was seen and of the
state holds of every run when every effect of a synchronised system extends it.
-/
theorem runFresh_history
    {motive : List Observation → System capacity → Prop}
    {limits : RiskLimits} {journal : Bool}
    (start : motive [] (fresh limits journal))
    (concat :
      ∀ past state observation next,
        Synchronised state →
          Effect riskManager state observation next →
            motive past state → motive (past ++ [observation]) next)
    (calls : List Call) :
    motive
      (observedFresh capacity (tracked riskManager) limits journal calls)
      (System.runFresh (tracked riskManager) limits journal calls) := by
  have extended :=
    (runFresh_trace limits journal calls).history
      (motive := fun past state => Synchronised state ∧ motive past state)
      (fun past state observation next effect held =>
        ⟨effect.synchronised held.1,
          concat past state observation next held.1 effect held.2⟩)
      [] ⟨Synchronised.fresh limits journal, start⟩
  exact extended.2

/-! ## Three-way synchronisation -/

/--
After every sequence of calls on fresh components: the active ids are those of
accepted records, the seen ids are those of accepted and cancelled records,
the buffer holds exactly the queued ids, each once, and no record is left in a
transient state.
-/
theorem run_synchronised (riskManager journal : Bool) (limits : RiskLimits)
    (calls : List Call) (sequenceId : UInt64) :
    let system : System capacity :=
      runFresh (tracked riskManager) limits journal calls
    let state := system.lifecycleTracker.stateOf sequenceId
    (system.exchange.hasActiveOrder sequenceId = true ↔
        state = some .exchangeAccepted) ∧
      (sequenceId ∈ system.exchange.seenSequenceIds ↔
        state = some .exchangeAccepted ∨ state = some .cancelled) ∧
      (system.queuedIds.Nodup ∧
        (sequenceId ∈ system.queuedIds ↔ state = some .queued)) ∧
      (state ≠ some .created ∧ state ≠ some .sent ∧
        state ≠ some .cancelPending ∧ state ≠ some .amendPending) := by
  intro system state
  have synchronised : Synchronised system :=
    runFresh_synchronised limits journal calls
  refine ⟨?_, synchronised.seen_iff sequenceId,
    ⟨Agreement.nodup synchronised,
      Agreement.queued_iff synchronised sequenceId⟩, ?_⟩
  · rw [ExchangeSimulator.hasActiveOrder_iff]
    exact synchronised.active_iff sequenceId
  · have settled := Agreement.settled synchronised sequenceId
    refine ⟨?_, ?_, ?_, ?_⟩
    · intro created
      exact (settled _ created).1 rfl
    · intro sent
      exact (settled _ sent).2.1 rfl
    · intro cancelPending
      exact (settled _ cancelPending).2.2.1 rfl
    · intro amendPending
      exact (settled _ amendPending).2.2.2 rfl

end Llgw.Synchronisation
