import Llgw.ActionEffects

/-!
# Atomicity of cancellations and amendments

`SendCancel` and `SendAmend` change two objects in three steps, any of which
may be refused, and the objects need not agree about an order.  Whatever the
state of both, a rejected action is rolled back and leaves no more than its
reason in the record of its order, and an accepted one changes the active
order and the record of its target and nothing else.
-/

namespace Llgw.ActionFrames

open Llgw.Foundation.KeyedStore
open Llgw.Messages
open Llgw.Exchange
open Llgw.Lifecycle
open Llgw.LifecycleMarks
open Llgw.Gateway
open Llgw.ActionEffects

/-- The states of an order with an action under way. -/
def isPending : OrderLifecycleState → Bool
  | .cancelPending => true
  | .amendPending => true
  | _ => false

/-- What an action is meant to do to its order and to its record. -/
structure ActionTerms (Response : Type) where
  target : OrderLifecycleState
  change : OrderRequest → Option OrderRequest
  giveReason : Response → OrderLifecycleRecord → OrderLifecycleRecord

/-- A cancellation removes the order. -/
def cancelTerms : ActionTerms CancelResponse where
  target := .cancelled
  change _ := none
  giveReason response record :=
    { record with cancelRejectReason := response.rejectReason }

/-- An amendment replaces the price and the quantity of the order. -/
def amendTerms (request : AmendRequest) : ActionTerms AmendResponse where
  target := .exchangeAccepted
  change order :=
    some
      { order with
        price := request.newPrice
        quantity := request.newQuantity }
  giveReason response record :=
    { record with amendRejectReason := response.rejectReason }

section Statements

variable {Response : Type} (wiring : GatewayWiring) (venue : Venue)
  (path : ActionPath Response) (terms : ActionTerms Response)

/-- The pending transition of an action is refused. -/
def Refuses : Prop :=
  wiring.lifecycleTracker = true ∧
    (applyMark venue.lifecycleTracker path.sequenceId
      path.pendingMark).1 = false

/-- A rejected action leaves at most its reason in the record of its order. -/
structure RolledBack (response : Response) (next : Venue) : Prop where
  exchange : next.exchange = venue.exchange
  states :
    next.lifecycleTracker.stateOf = venue.lifecycleTracker.stateOf
  others :
    ∀ other, other ≠ path.sequenceId →
      next.lifecycleTracker.records.lookup other =
        venue.lifecycleTracker.records.lookup other
  reason :
    ∀ record,
      venue.lifecycleTracker.records.lookup path.sequenceId =
          some record →
        next.lifecycleTracker.records.lookup path.sequenceId =
            some record ∨
          next.lifecycleTracker.records.lookup path.sequenceId =
            some (terms.giveReason response record)

/-- An accepted action changes the order and the record of its target. -/
structure Completed (next : Venue) : Prop where
  seen :
    next.exchange.seenSequenceIds = venue.exchange.seenSequenceIds
  order :
    ∃ order,
      venue.exchange.activeOrders.lookup path.sequenceId = some order ∧
        next.exchange.activeOrders.lookup path.sequenceId =
          terms.change order
  otherOrders :
    ∀ other, other ≠ path.sequenceId →
      next.exchange.activeOrders.lookup other =
        venue.exchange.activeOrders.lookup other
  otherRecords :
    ∀ other, other ≠ path.sequenceId →
      next.lifecycleTracker.records.lookup other =
        venue.lifecycleTracker.records.lookup other
  tracked :
    wiring.lifecycleTracker = true →
      next.lifecycleTracker.stateOf path.sequenceId = some terms.target
  untracked :
    wiring.lifecycleTracker = false →
      next.lifecycleTracker = venue.lifecycleTracker

/-- An action on a venue and its result. -/
structure Atomic (result : Response × Venue) : Prop where
  rejected :
    path.accepted result.1 = false →
      RolledBack venue path terms result.1 result.2
  accepted :
    path.accepted result.1 = true →
      Completed wiring venue path terms result.2
  pending :
    ∀ sequenceId state, isPending state = true →
      result.2.lifecycleTracker.stateOf sequenceId = some state →
        venue.lifecycleTracker.stateOf sequenceId = some state
  counted :
    Refuses wiring venue path →
      result.2.gateway.lifecycleTransitionErrors =
        venue.gateway.lifecycleTransitionErrors + 1
  uncounted :
    ¬ Refuses wiring venue path →
      result.2.gateway.lifecycleTransitionErrors =
        venue.gateway.lifecycleTransitionErrors
  notConsulted :
    Refuses wiring venue path →
      result.1 = path.refusal ∧
        ∀ exchange,
          sendAction wiring { venue with exchange := exchange } path =
            (result.1, { result.2 with exchange := exchange })

end Statements

/-! ## Paths that do what their terms say -/

/-- What a path has to satisfy for its actions to be atomic. -/
structure Framed {Response : Type} (path : ActionPath Response)
    (decision : Option OrderRequest → Response × Write OrderRequest)
    (terms : ActionTerms Response) : Prop extends path.Cyclic where
  isLocal : Local path decision
  refusal : path.accepted path.refusal = false
  noExchange : path.accepted path.noExchange = false
  rejectedOrder :
    ∀ active, path.accepted (decision active).1 = false →
      (decision active).2 = .keep
  acceptedOrder :
    ∀ active, path.accepted (decision active).1 = true →
      ∃ order, active = some order ∧
        (decision active).2.entry active = terms.change order
  rejectedRecord :
    ∀ response record, record.state = .exchangeAccepted →
      (path.rejectedMark response).moved
          (path.pendingMark.moved record) =
        terms.giveReason response record
  rejectedTarget :
    ∀ response, (path.rejectedMark response).target = .exchangeAccepted
  acceptedTarget : path.acceptedMark.target = terms.target
  targetRests : isPending terms.target = false
  sentErrors :
    ∀ gateway,
      (path.countSent gateway).lifecycleTransitionErrors =
        gateway.lifecycleTransitionErrors
  acceptedErrors :
    ∀ gateway,
      (path.countAccepted gateway).lifecycleTransitionErrors =
        gateway.lifecycleTransitionErrors
  rejectedErrors :
    ∀ gateway,
      (path.countRejected gateway).lifecycleTransitionErrors =
        gateway.lifecycleTransitionErrors

theorem cancelPath_framed (request : CancelRequest) :
    Framed (cancelPath request) (cancelDecision request) cancelTerms where
  toCyclic := cancelPath_cyclic request
  isLocal := cancelPath_local request
  refusal := rfl
  noExchange := rfl
  rejectedOrder := by
    intro active rejected
    cases active with
    | none => rfl
    | some order => cases rejected
  acceptedOrder := by
    intro active accepted
    cases active with
    | none => cases accepted
    | some order => exact ⟨order, rfl, rfl⟩
  rejectedRecord := by
    rintro response ⟨sequenceId, state⟩ rfl
    rfl
  rejectedTarget _ := rfl
  acceptedTarget := rfl
  targetRests := rfl
  sentErrors _ := rfl
  acceptedErrors _ := rfl
  rejectedErrors _ := rfl

theorem amendPath_framed (request : AmendRequest) :
    Framed (amendPath request) (amendDecision request)
      (amendTerms request) where
  toCyclic := amendPath_cyclic request
  isLocal := amendPath_local request
  refusal := rfl
  noExchange := rfl
  rejectedOrder := by
    intro active rejected
    cases active with
    | none => rfl
    | some order =>
        unfold amendDecision at rejected ⊢
        simp only at rejected ⊢
        split_ifs at rejected ⊢
        · rfl
        · rfl
        · cases rejected
  acceptedOrder := by
    intro active accepted
    cases active with
    | none => cases accepted
    | some order =>
        unfold amendDecision at accepted ⊢
        simp only at accepted ⊢
        split_ifs at accepted ⊢
        · cases accepted
        · cases accepted
        · exact ⟨order, rfl, rfl⟩
  rejectedRecord := by
    rintro response ⟨sequenceId, state⟩ rfl
    rfl
  rejectedTarget _ := rfl
  acceptedTarget := rfl
  targetRests := rfl
  sentErrors _ := rfl
  acceptedErrors _ := rfl
  rejectedErrors _ := rfl

/-- Two marks of an order leave the records of the others alone. -/
theorem lookup_completed_of_ne {tracker : OrderLifecycleTracker}
    {sequenceId other : UInt64} {record : OrderLifecycleRecord}
    (different : other ≠ sequenceId) (first second : Mark) :
    (completed tracker sequenceId record first second).records.lookup other =
      tracker.records.lookup other := by
  simp only [completed, marked, Finmap.insert_insert]
  exact Finmap.lookup_insert_of_ne _ different

section Proofs

variable {Response : Type} {path : ActionPath Response}
  {decision : Option OrderRequest → Response × Write OrderRequest}
  {terms : ActionTerms Response}
  (framed : Framed path decision terms)
  (wiring : GatewayWiring) (venue : Venue)
include framed

/-! ## The exchange during an action -/

theorem Framed.executed_of_rejected (exchange : ExchangeSimulator)
    (rejected :
      path.accepted (executed wiring path exchange).1 = false) :
    (executed wiring path exchange).2 = exchange := by
  rw [executed_eq framed.isLocal] at rejected ⊢
  unfold answered at rejected ⊢
  split_ifs at rejected ⊢
  · rw [framed.rejectedOrder _ rejected]
    rfl
  · rfl

theorem Framed.executed_of_accepted (exchange : ExchangeSimulator)
    (accepted : path.accepted (executed wiring path exchange).1 = true) :
    ∃ order,
      exchange.activeOrders.lookup path.sequenceId = some order ∧
        (executed wiring path exchange).2.activeOrders.lookup
            path.sequenceId = terms.change order := by
  rw [executed_eq framed.isLocal] at accepted ⊢
  unfold answered at accepted ⊢
  split_ifs at accepted ⊢
  · rcases framed.acceptedOrder _ accepted with ⟨order, active, changed⟩
    refine ⟨order, active, ?_⟩
    rw [Write.lookup_applyTo, if_pos rfl]
    exact changed
  · rw [framed.noExchange] at accepted
    contradiction

theorem Framed.executed_frame (exchange : ExchangeSimulator)
    {other : UInt64} (different : other ≠ path.sequenceId) :
    (executed wiring path exchange).2.activeOrders.lookup other =
      exchange.activeOrders.lookup other := by
  rw [executed_eq framed.isLocal]
  exact Write.lookup_applyTo_of_ne _ _ different

theorem Framed.executed_seen (exchange : ExchangeSimulator) :
    (executed wiring path exchange).2.seenSequenceIds =
      exchange.seenSequenceIds := by
  rw [executed_eq framed.isLocal]

theorem Framed.countResponse_errors (response : Response)
    (gateway : OrderGateway) :
    (path.countResponse response gateway).lifecycleTransitionErrors =
      gateway.lifecycleTransitionErrors := by
  unfold ActionPath.countResponse
  split_ifs
  · rw [framed.acceptedErrors, framed.sentErrors]
  · rw [framed.rejectedErrors, framed.sentErrors]

/-! ## The three outcomes -/

/-- A refused pending transition leaves everything but the counters alone. -/
theorem Framed.atomic_of_refused {error : LifecycleError}
    (attached : wiring.lifecycleTracker = true)
    (refused :
      applyMark venue.lifecycleTracker path.sequenceId path.pendingMark =
        (false, failed venue.lifecycleTracker error)) :
    Atomic wiring venue path terms (sendAction wiring venue path) := by
  have refuses : Refuses wiring venue path := by
    refine ⟨attached, ?_⟩
    rw [refused]
  rw [sendAction_of_refused attached refused]
  constructor
  · intro _
    exact
      { exchange := rfl
        states := rfl
        others := fun _ _ => rfl
        reason := fun _ found => Or.inl found }
  · intro accepted
    rw [framed.refusal] at accepted
    contradiction
  · exact fun _ _ _ same => same
  · intro _
    show (path.countRejected _).lifecycleTransitionErrors = _
    rw [framed.rejectedErrors, countError, framed.sentErrors]
  · exact fun permitted => absurd refuses permitted
  · intro _
    refine ⟨rfl, ?_⟩
    intro exchange
    exact sendAction_of_refused attached refused

/-- Without a tracker only the exchange decides. -/
theorem Framed.atomic_of_untracked
    (detached : wiring.lifecycleTracker = false) :
    Atomic wiring venue path terms (sendAction wiring venue path) := by
  have permitted : ¬ Refuses wiring venue path := by
    rintro ⟨attached, _⟩
    rw [detached] at attached
    contradiction
  rw [sendAction_of_untracked detached]
  constructor
  · intro rejected
    exact
      { exchange := framed.executed_of_rejected wiring _ rejected
        states := rfl
        others := fun _ _ => rfl
        reason := fun _ found => Or.inl found }
  · intro accepted
    exact
      { seen := framed.executed_seen wiring _
        order := framed.executed_of_accepted wiring _ accepted
        otherOrders := fun _ => framed.executed_frame wiring _
        otherRecords := fun _ _ => rfl
        tracked := fun attached =>
          absurd (detached.symm.trans attached) Bool.false_ne_true
        untracked := fun _ => rfl }
  · exact fun _ _ _ same => same
  · exact fun refuses => absurd refuses permitted
  · exact fun _ => framed.countResponse_errors _ _
  · exact fun refuses => absurd refuses permitted

/-- The completing transition of an accepted action reaches the target. -/
theorem Framed.completed_of_accepted (record : OrderLifecycleRecord)
    (gateway : OrderGateway)
    (attached : wiring.lifecycleTracker = true)
    (accepted :
      path.accepted (executed wiring path venue.exchange).1 = true) :
    Completed wiring venue path terms
      { gateway := gateway
        exchange := (executed wiring path venue.exchange).2
        lifecycleTracker :=
          completed venue.lifecycleTracker path.sequenceId record
            path.pendingMark
            (path.completingMark
              (executed wiring path venue.exchange).1) } := by
  have completing :
      path.completingMark (executed wiring path venue.exchange).1 =
        path.acceptedMark := by
    simp only [ActionPath.completingMark, accepted, if_true]
  rw [completing]
  constructor
  · exact framed.executed_seen wiring _
  · exact framed.executed_of_accepted wiring _ accepted
  · exact fun other different => framed.executed_frame wiring _ different
  · exact fun other different => lookup_completed_of_ne different _ _
  · intro _
    rw [stateOf_completed, framed.acceptedTarget]
    exact Function.update_self _ _ _
  · exact fun detached =>
      absurd (detached.symm.trans attached) Bool.false_ne_true

/-- No order is left pending that was not pending before. -/
theorem Framed.pending_of_completed (record : OrderLifecycleRecord)
    (response : Response)
    {sequenceId : UInt64} {state : OrderLifecycleState}
    (pending : isPending state = true)
    (now :
      (completed venue.lifecycleTracker path.sequenceId record
          path.pendingMark (path.completingMark response)).stateOf
        sequenceId = some state) :
    venue.lifecycleTracker.stateOf sequenceId = some state := by
  rw [stateOf_completed, Function.update_apply] at now
  split_ifs at now with same
  · have rests :
        isPending (path.completingMark response).target = false := by
      unfold ActionPath.completingMark
      split_ifs
      · rw [framed.acceptedTarget, framed.targetRests]
      · rw [framed.rejectedTarget]
        rfl
    rw [Option.some.inj now, pending] at rests
    contradiction
  · exact now

section Legal

variable {record : OrderLifecycleRecord}
  (legal :
    Legal venue.lifecycleTracker path.sequenceId record path.pendingMark)
include legal

theorem Framed.stateOf_of_legal :
    venue.lifecycleTracker.stateOf path.sequenceId =
      some .exchangeAccepted := by
  rw [stateOf_eq_some_iff]
  exact ⟨record, legal.found, legal.state.trans framed.pendingSource⟩

/-- The completing transition of a rejected action restores the state. -/
theorem Framed.rolledBack_of_legal (gateway : OrderGateway)
    (rejected :
      path.accepted (executed wiring path venue.exchange).1 = false) :
    RolledBack venue path terms (executed wiring path venue.exchange).1
      { gateway := gateway
        exchange := (executed wiring path venue.exchange).2
        lifecycleTracker :=
          completed venue.lifecycleTracker path.sequenceId record
            path.pendingMark
            (path.completingMark
              (executed wiring path venue.exchange).1) } := by
  have completing :
      path.completingMark (executed wiring path venue.exchange).1 =
        path.rejectedMark (executed wiring path venue.exchange).1 := by
    simp only [ActionPath.completingMark, rejected, Bool.false_eq_true,
      if_false]
  rw [completing]
  constructor
  · exact framed.executed_of_rejected wiring _ rejected
  · rw [stateOf_completed, framed.rejectedTarget,
      ← framed.stateOf_of_legal venue legal]
    exact Function.update_eq_self _ _
  · exact fun other different => lookup_completed_of_ne different _ _
  · intro original found
    have same : record = original :=
      Option.some.inj (legal.found.symm.trans found)
    subst same
    right
    rw [← framed.rejectedRecord _ record
      (legal.state.trans framed.pendingSource)]
    exact Finmap.lookup_insert _

/-- The completing transition restores the state or reaches the target. -/
theorem Framed.atomic_of_legal
    (attached : wiring.lifecycleTracker = true) :
    Atomic wiring venue path terms (sendAction wiring venue path) := by
  have permitted : ¬ Refuses wiring venue path := by
    rintro ⟨_, refused⟩
    rw [applyMark_of_legal legal] at refused
    contradiction
  rw [sendAction_of_legal framed.toCyclic attached legal]
  constructor
  · exact framed.rolledBack_of_legal wiring venue legal _
  · exact framed.completed_of_accepted wiring venue record _ attached
  · exact fun _ _ => framed.pending_of_completed venue record _
  · exact fun refuses => absurd refuses permitted
  · exact fun _ => framed.countResponse_errors _ _
  · exact fun refuses => absurd refuses permitted

end Legal

theorem Framed.atomic :
    Atomic wiring venue path terms (sendAction wiring venue path) := by
  cases attached : wiring.lifecycleTracker with
  | false => exact framed.atomic_of_untracked wiring venue attached
  | true =>
      rcases applyMark_cases venue.lifecycleTracker path.sequenceId
          path.pendingMark with
        ⟨record, legal, _⟩ | ⟨_, error, _, _, refused⟩
      · exact framed.atomic_of_legal wiring venue legal attached
      · exact framed.atomic_of_refused wiring venue attached refused

end Proofs

/--
From every state of the exchange and the tracker, either of which may be
absent or out of step with the other, `SendCancel` and `SendAmend` are atomic.
-/
theorem cancel_and_amend_are_atomic
    (wiring : GatewayWiring) (venue : Venue) :
    (∀ request,
        Atomic wiring venue (cancelPath request) cancelTerms
          (sendCancel wiring venue request)) ∧
      ∀ request,
        Atomic wiring venue (amendPath request) (amendTerms request)
          (sendAmend wiring venue request) := by
  constructor
  · intro request
    exact (cancelPath_framed request).atomic wiring venue
  · intro request
    exact (amendPath_framed request).atomic wiring venue

end Llgw.ActionFrames
