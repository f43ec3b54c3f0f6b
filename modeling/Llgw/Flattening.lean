import Llgw.RefusedCalls

/-!
# Bringing a system to rest

From every state that a tracked system can reach, one drain and a cancel for
each order that is active then leave no order open anywhere.  The system stays
at rest until a new order is offered.
-/

namespace Llgw.Flattening

open Llgw.Foundation.TransitionRun
open Llgw.Messages
open Llgw.Risk
open Llgw.Exchange
open Llgw.Lifecycle
open Llgw.LifecycleMarks
open Llgw.Gateway
open Llgw.Pipeline
open Llgw.System
open Llgw.OrderAgreement
open Llgw.StepEffects
open Llgw.Effects
open Llgw.Synchronisation
open Llgw.RefusedCalls

variable {capacity : ℕ+} {riskManager : Bool}

/-- A state that no call on the order can change any more. -/
def Terminal : OrderLifecycleState → Prop
  | .riskRejected | .exchangeRejected | .cancelled => True
  | .created | .queued | .sent | .exchangeAccepted
  | .cancelPending | .amendPending => False

/-- No order waits, none is active, and every record is final. -/
structure AtRest (system : System capacity) : Prop where
  queue : system.pipeline.buffer.contents = []
  active :
    ∀ sequenceId, system.exchange.hasActiveOrder sequenceId = false
  terminal :
    ∀ sequenceId state,
      system.lifecycleTracker.stateOf sequenceId = some state →
        Terminal state

/-- Only the listed orders are open, and they are all at the exchange. -/
structure OpenWithin (sequenceIds : List UInt64) (system : System capacity) :
    Prop where
  synchronised : Synchronised system
  queue : system.pipeline.buffer.contents = []
  active :
    ∀ sequenceId, system.exchange.hasActiveOrder sequenceId = true →
      sequenceId ∈ sequenceIds

theorem OpenWithin.atRest {system : System capacity}
    (inside : OpenWithin [] system) : AtRest system where
  queue := inside.queue
  active sequenceId := by
    rw [← Bool.not_eq_true]
    intro active
    exact List.not_mem_nil (inside.active sequenceId active)
  terminal sequenceId state found := by
    have settled :=
      Agreement.settled inside.synchronised sequenceId state found
    have queued :=
      (Agreement.queued_iff inside.synchronised sequenceId).mpr
    have active := inside.active sequenceId
    rw [ExchangeSimulator.hasActiveOrder_iff,
      inside.synchronised.active_iff] at active
    rw [System.queuedIds, inside.queue] at queued
    cases state with
    | created => exact settled.1 rfl
    | queued => exact List.not_mem_nil (queued found)
    | riskRejected => trivial
    | sent => exact settled.2.1 rfl
    | exchangeAccepted => exact List.not_mem_nil (active found)
    | exchangeRejected => trivial
    | cancelPending => exact settled.2.2.1 rfl
    | cancelled => trivial
    | amendPending => exact settled.2.2.2 rfl

/-- The request to cancel an order. -/
def cancelOf (sequenceId : UInt64) : Call :=
  .sendCancel { sequenceId := sequenceId }

/-- The answer to that request. -/
def cancelReply (accepted : Bool) (sequenceId : UInt64) : Reply :=
  .cancelled
    { sequenceId := sequenceId
      accepted := accepted
      rejectReason := if accepted then .none else .invalidState }

/-- What a cancel does to the set of active orders. -/
structure Closes (system : System capacity) (sequenceId : UInt64)
    (response : CancelResponse) (next : System capacity) : Prop where
  answer :
    Reply.cancelled response =
      cancelReply (system.exchange.hasActiveOrder sequenceId) sequenceId
  closed : next.exchange.hasActiveOrder sequenceId = false
  others :
    ∀ other, other ≠ sequenceId →
      next.exchange.hasActiveOrder other =
        system.exchange.hasActiveOrder other
  queue : next.pipeline.buffer.contents = system.pipeline.buffer.contents

theorem cancel_closes {system next : System capacity}
    (synchronised : Synchronised system)
    {request : CancelRequest} {response : CancelResponse}
    (effect :
      Effect riskManager system (.cancelled request response) next) :
    Closes system request.sequenceId response next := by
  cases effect with
  | cancelRefused illegal =>
      have inactive :
          system.exchange.hasActiveOrder request.sequenceId = false := by
        rw [← Bool.not_eq_true, ExchangeSimulator.hasActiveOrder_iff,
          synchronised.active_iff]
        exact illegal
      constructor
      · rw [inactive]
        rfl
      · exact inactive
      · intro other _
        rfl
      · rfl
  | cancelledOrder found accepted =>
      have active :
          system.exchange.hasActiveOrder request.sequenceId = true := by
        rw [ExchangeSimulator.hasActiveOrder_iff, synchronised.active_iff]
        exact (stateOf_eq_some_iff _ _).mpr ⟨_, found, accepted⟩
      constructor
      · rw [active]
        rfl
      · simp [cancelledOrder, ExchangeSimulator.hasActiveOrder]
      · intro other distinct
        simp [cancelledOrder, ExchangeSimulator.hasActiveOrder, distinct]
      · rfl

/-- The step lemma: a cancel leaves fewer orders that may be open. -/
theorem Closes.openWithin {sequenceId : UInt64} {rest : List UInt64}
    {system next : System capacity} {response : CancelResponse}
    (closes : Closes system sequenceId response next)
    (inside : OpenWithin (sequenceId :: rest) system)
    (synchronised : Synchronised next) : OpenWithin rest next where
  synchronised := synchronised
  queue := closes.queue.trans inside.queue
  active other active := by
    have distinct : other ≠ sequenceId := by
      rintro rfl
      rw [closes.closed] at active
      contradiction
    rw [closes.others other distinct] at active
    exact List.mem_of_ne_of_mem distinct (inside.active other active)

/--
The run lemma: the cancels are answered by whether their orders are active, and
leave the system at rest.
-/
theorem cancels_atRest (riskManager : Bool) {sequenceIds : List UInt64}
    (distinct : sequenceIds.Nodup) {system : System capacity}
    (inside : OpenWithin sequenceIds system) :
    AtRest
        (run (step (tracked riskManager)) system
          (sequenceIds.map cancelOf)) ∧
      outputs (step (tracked riskManager)) system
          (sequenceIds.map cancelOf) =
        sequenceIds.map fun sequenceId =>
          cancelReply (system.exchange.hasActiveOrder sequenceId)
            sequenceId := by
  induction sequenceIds generalizing system with
  | nil => exact ⟨inside.atRest, rfl⟩
  | cons sequenceId rest induction =>
      rcases List.nodup_cons.mp distinct with ⟨absent, distinct⟩
      have effect : Effect riskManager system _ _ :=
        sendCancel_effect inside.synchronised { sequenceId := sequenceId }
      have closes := cancel_closes inside.synchronised effect
      have next :=
        closes.openWithin inside (effect.synchronised inside.synchronised)
      rcases induction distinct next with ⟨atRest, answers⟩
      constructor
      · exact atRest
      · rw [List.map_cons, outputs_cons, List.map_cons, ← closes.answer]
        refine congrArg (List.cons _) (answers.trans ?_)
        apply List.map_congr_left
        intro other member
        have different : other ≠ sequenceId := by
          rintro rfl
          exact absent member
        rw [closes.others other different]

/-! ## Staying at rest -/

/-- Whether a call has taken in a new order. -/
def takesIn : Reply → Bool
  | .enqueued accepted => accepted
  | .drained _ _ | .cancelled _ | .amended _ => false

section Rest

variable {system : System capacity} (synchronised : Synchronised system)
  (atRest : AtRest system)

include atRest in
/-- What a refusal may change does not disturb the rest. -/
theorem AtRest.of_hushed {next : System capacity}
    (hushed : Hushed next system) : AtRest next where
  queue := hushed.buffer ▸ atRest.queue
  active := hushed.venue.exchange ▸ atRest.active
  terminal sequenceId state found := by
    apply atRest.terminal sequenceId
    rw [OrderLifecycleTracker.stateOf, OrderLifecycleTracker.find,
      ← hushed.venue.records]
    exact found

include synchronised atRest in
theorem AtRest.inactive (sequenceId : UInt64) :
    system.lifecycleTracker.stateOf sequenceId ≠
      some .exchangeAccepted := by
  rw [Ne, ← synchronised.active_iff,
    ← ExchangeSimulator.hasActiveOrder_iff, atRest.active sequenceId]
  exact Bool.false_ne_true

omit synchronised atRest in
theorem hushed_of_inactiveAmend {next : System capacity}
    {request : AmendRequest} {response : AmendResponse}
    (inactive :
      system.lifecycleTracker.stateOf request.sequenceId ≠
        some .exchangeAccepted)
    (effect :
      Effect riskManager system (.amended request response) next) :
    Hushed next system := by
  cases effect with
  | amendRefused => exact ⟨⟨rfl, rfl, rfl⟩, rfl, rfl⟩
  | acceptedAmend found accepted =>
      exact absurd ((stateOf_eq_some_iff _ _).mpr ⟨_, found, accepted⟩)
        inactive
  | rejectedAmend found accepted =>
      exact absurd ((stateOf_eq_some_iff _ _).mpr ⟨_, found, accepted⟩)
        inactive

include synchronised atRest in
/-- A call that takes no order in is refused or finds nothing to do. -/
theorem AtRest.step {call : Call}
    (idle : takesIn (step (tracked riskManager) system call).1 = false) :
    Hushed (System.step (tracked riskManager) system call).2 system := by
  cases call with
  | enqueue request =>
      have effect := enqueue_effect riskManager system request
      simp only [System.step, takesIn] at idle
      rw [idle] at effect
      exact hushed_of_refusedOffer effect
  | drain =>
      have still :
          (drain (tracked riskManager) system).system = system := by
        simp only [drain, drainLoop, drainStep_of_empty atRest.queue]
      simp only [System.step, still]
      exact .refl system
  | sendCancel request =>
      have effect : Effect riskManager system _ _ :=
        sendCancel_effect synchronised request
      simp only [System.step]
      generalize sendCancel (tracked riskManager).venue system.toVenue
        request = result at effect ⊢
      have closes := cancel_closes synchronised effect
      have refuses : result.1.accepted = false := by
        have answer := closes.answer
        rw [atRest.active, cancelReply] at answer
        rw [Reply.cancelled.inj answer]
      exact hushed_of_refusedCancel effect refuses
  | sendAmend request =>
      have effect : Effect riskManager system _ _ :=
        sendAmend_effect synchronised request
      have inactive := atRest.inactive synchronised request.sequenceId
      exact hushed_of_inactiveAmend inactive effect

include synchronised atRest in
/-- The run lemma: calls that take no order in leave a system at rest. -/
theorem AtRest.run {calls : List Call}
    (idle :
      ∀ reply ∈ outputs (System.step (tracked riskManager)) system calls,
        takesIn reply = false) :
    Hushed (run (System.step (tracked riskManager)) system calls)
      system := by
  induction calls generalizing system with
  | nil => exact .refl system
  | cons call rest induction =>
      rw [outputs_cons, List.forall_mem_cons] at idle
      have hushed := atRest.step synchronised idle.1
      have later :=
        induction (step_synchronised riskManager synchronised call)
          (atRest.of_hushed hushed) idle.2
      exact later.trans hushed

end Rest

/--
After any calls, one drain and one cancel for each active order bring a system
to rest: no order waits, none is active, and every record is final.  The
cancels of active orders are all accepted, those of others are refused, and
whatever is called afterwards changes nothing but counters of refusals and the
last error of the tracker until a new order is taken in.
-/
theorem run_flattened (riskManager journal : Bool) (limits : RiskLimits)
    (calls : List Call) (sequenceIds : List UInt64)
    (distinct : sequenceIds.Nodup)
    (covers :
      ∀ sequenceId,
        (runFresh (tracked riskManager) limits journal (calls ++ [.drain]) :
            System capacity).exchange.hasActiveOrder sequenceId = true →
          sequenceId ∈ sequenceIds) :
    let drained : System capacity :=
      runFresh (tracked riskManager) limits journal (calls ++ [.drain])
    let flat :=
      run (step (tracked riskManager)) drained (sequenceIds.map cancelOf)
    AtRest flat ∧
      (outputs (step (tracked riskManager)) drained
          (sequenceIds.map cancelOf) =
        sequenceIds.map fun sequenceId =>
          cancelReply (drained.exchange.hasActiveOrder sequenceId)
            sequenceId) ∧
      ∀ later,
        (∀ reply ∈ outputs (step (tracked riskManager)) flat later,
          takesIn reply = false) →
        Hushed (run (step (tracked riskManager)) flat later) flat := by
  intro drained flat
  have synchronised : Synchronised drained :=
    runFresh_synchronised limits journal (calls ++ [.drain])
  have queue : drained.pipeline.buffer.contents = [] := by
    have last :
        drained =
          (step (tracked riskManager)
            (runFresh (tracked riskManager) limits journal calls)
            .drain).2 :=
      run_concat _ _ _ _
    rw [last]
    exact (drain_trace (tracked riskManager) _).1.orders.2
  have inside : OpenWithin sequenceIds drained :=
    { synchronised := synchronised, queue := queue, active := covers }
  rcases cancels_atRest riskManager distinct inside with
    ⟨atRest, answers⟩
  refine ⟨atRest, answers, fun later idle => ?_⟩
  have flatSynchronised : Synchronised flat :=
    run_invariant (step (tracked riskManager)) Synchronised synchronised
      (fun _ call synchronised =>
        step_synchronised riskManager synchronised call) _
  exact atRest.run flatSynchronised idle

/-- One order is brought to rest, and one that does not exist. -/
theorem run_flattened_oneOrder :
    let calls : List Call :=
      [.enqueue
        { sequenceId := 1, symbol := .ofView (text "AAPL"), price := 1.0
          quantity := 10 }]
    AtRest
      (run (step (tracked true))
        (runFresh (tracked true) {} true (calls ++ [.drain]) : System 1)
        ([1, 2].map cancelOf)) := by
  intro calls
  have distinct : [(1 : UInt64), 2].Nodup := by decide
  refine (run_flattened true true {} calls [1, 2] distinct ?_).1
  intro sequenceId active
  have orders :
      (runFresh (tracked true) {} true (calls ++ [.drain]) :
          System 1).exchange.activeOrders.keys = {1} := by
    decide +kernel
  rw [ExchangeSimulator.hasActiveOrder_iff, ← Finmap.mem_keys, orders,
    Finset.mem_singleton] at active
  exact active ▸ List.mem_cons_self

end Llgw.Flattening
