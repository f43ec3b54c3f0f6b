import Llgw.Synchronisation

/-!
# What attaching a tracker changes

The same calls on a system with a tracker and on one without.  As long as no
id is enqueued again after it was accepted, the tracker refuses exactly the
actions that the exchange would refuse: the system without a tracker is at
every moment the system with one, less what only a tracker writes.
-/

namespace Llgw.TrackerTransparency

open Llgw.Foundation.TransitionRun
open Llgw.Foundation.KeyedStore
open Llgw.Foundation.LabelledTrace
open Llgw.Messages
open Llgw.Risk
open Llgw.Exchange
open Llgw.Lifecycle
open Llgw.LifecycleMarks
open Llgw.Gateway
open Llgw.Pipeline
open Llgw.System
open Llgw.StepEffects
open Llgw.Effects
open Llgw.Synchronisation

variable {capacity : ℕ+} {riskManager : Bool} {system : System capacity}

/-- A gateway without its count of lifecycle errors. -/
def plainGateway (gateway : OrderGateway) : OrderGateway :=
  { gateway with lifecycleTransitionErrors := 0 }

/-- A pipeline without its two lifecycle counters. -/
def plainPipeline (pipeline : OrderPipeline capacity) :
    OrderPipeline capacity :=
  { pipeline with
    ordersRejectedByLifecycleOnEnqueue := 0
    lifecycleTransitionErrors := 0 }

/-- A system without its tracker and the counters that depend on one. -/
def withoutTracker (system : System capacity) : System capacity where
  gateway := plainGateway system.gateway
  exchange := system.exchange
  lifecycleTracker := {}
  riskManager := system.riskManager
  pipeline := plainPipeline system.pipeline

/-! ## Enqueue and Drain -/

/-- The two systems enqueue an order alike that has no record. -/
theorem enqueue_withoutTracker
    (riskManager : Bool) {request : OrderRequest}
    (unknown : request.sequenceId ∉ system.lifecycleTracker.records) :
    enqueue (untracked riskManager) (withoutTracker system) request =
      ((enqueue (tracked riskManager) system request).1,
        withoutTracker
          (enqueue (tracked riskManager) system request).2) := by
  have detached :
      (untracked riskManager).lifecycleTracker = true →
        request.sequenceId ∉
          (withoutTracker system).lifecycleTracker.records :=
    fun attached => absurd attached Bool.false_ne_true
  cases room : system.pipeline.buffer.full with
  | true =>
      rw [enqueue_of_full (fun _ => unknown) room,
        enqueue_of_full detached room]
      rfl
  | false =>
      rw [enqueue_of_room (fun _ => unknown) room,
        enqueue_of_room detached room]
      rfl

theorem plainGateway_countSubmission
    (response : OrderResponse) (gateway : OrderGateway) :
    plainGateway (countSubmission response gateway) =
      countSubmission response (plainGateway gateway) := by
  unfold countSubmission
  split_ifs <;> rfl

theorem plainPipeline_countOutcome
    (response : OrderResponse) (pipeline : OrderPipeline capacity) :
    plainPipeline (countOutcome response pipeline) =
      countOutcome response (plainPipeline pipeline) := by
  unfold countOutcome
  split_ifs <;> rfl

/-- The two systems submit an order alike. -/
theorem submitted_withoutTracker
    (system : System capacity) (order : OrderRequest)
    (record : OrderLifecycleRecord) :
    submitted (untracked riskManager) (withoutTracker system) order
        record =
      withoutTracker
        (submitted (tracked riskManager) system order record) := by
  simp only [submitted, withoutTracker, plainGateway_countSubmission,
    plainPipeline_countOutcome]
  rfl

/-- The two systems process the head of the queue alike. -/
theorem drainOrder_withoutTracker
    (synchronised : Synchronised system)
    {order : OrderRequest} {rest : List OrderRequest}
    (queue : system.pipeline.buffer.contents = order :: rest) :
    (drainOrder (untracked riskManager)
        (withoutTracker (popped system (restBuffer system))) order).2 =
      withoutTracker
        (drainOrder (tracked riskManager)
          (popped system (restBuffer system)) order).2 := by
  rcases synchronised.waiting queue with ⟨record, found, state⟩
  have waiting :
      Waiting (tracked riskManager)
        (popped system (restBuffer system)).lifecycleTracker
        order.sequenceId record :=
    ⟨fun _ => found, fun _ => state⟩
  generalize popped system (restBuffer system) = start at waiting ⊢
  by_cases passes :
      riskManager = true → start.riskManager.firstFailure order = none
  · have attached :
        drainOrder (tracked riskManager) start order = _ :=
      (drainOrder_of_pass passes).trans
        (dispatch_of_waiting rfl rfl waiting)
    have detached :
        drainOrder (untracked riskManager) (withoutTracker start) order =
          _ :=
      (drainOrder_of_pass passes).trans
        (dispatch_of_waiting rfl rfl (.of_detached rfl _ _ record))
    rw [attached, detached]
    exact
      submitted_withoutTracker
        { start with
          riskManager :=
            passedManager (tracked riskManager) start.riskManager }
        order record
  · rcases Classical.not_imp.mp passes with ⟨checks, fails⟩
    rcases Option.ne_none_iff_exists'.mp fails with ⟨reason, failure⟩
    have detached :
        (withoutTracker start).riskManager.firstFailure order =
          some reason :=
      failure
    rw [drainOrder_of_failure checks failure waiting,
      drainOrder_of_failure checks detached
        (.of_detached rfl _ _ record)]
    rfl

/-- The two systems drain alike. -/
theorem drainLoop_withoutTracker
    (riskManager : Bool) (fuel : Nat) (synchronised : Synchronised system) :
    (drainLoop (untracked riskManager) fuel
        (withoutTracker system)).drainedNow =
      (drainLoop (tracked riskManager) fuel system).drainedNow ∧
    (drainLoop (untracked riskManager) fuel
        (withoutTracker system)).system =
      withoutTracker
        (drainLoop (tracked riskManager) fuel system).system := by
  induction fuel generalizing system with
  | zero => exact ⟨rfl, rfl⟩
  | succ fuel induction =>
      cases queue : system.pipeline.buffer.contents with
      | nil =>
          have attached : drainStep (tracked riskManager) system = none :=
            drainStep_of_empty queue
          have detached :
              drainStep (untracked riskManager)
                (withoutTracker system) = none :=
            drainStep_of_empty queue
          simp only [drainLoop, attached, detached, and_self]
      | cons order rest =>
          have attached :
              drainStep (tracked riskManager) system = some _ :=
            drainStep_of_contents queue
          have detached :
              drainStep (untracked riskManager)
                (withoutTracker system) = some _ :=
            drainStep_of_contents queue
          have processed :
              (drainOrder (untracked riskManager)
                (popped (withoutTracker system)
                  (restBuffer (withoutTracker system))) order).2 = _ :=
            drainOrder_withoutTracker synchronised queue
          have later :=
            induction ((drainStep_effect synchronised
              attached).synchronised synchronised)
          simp only [drainLoop, attached, detached, processed, later,
            and_self]

/-! ## SendCancel and SendAmend -/

/-- What an action path says about an order that is not active. -/
structure Neutral {Response : Type} (path : ActionPath Response) :
    Prop where
  inactive :
    ∀ exchange : ExchangeSimulator,
      path.sequenceId ∉ exchange.activeOrders →
        path.execute exchange = (path.noExchange, exchange)
  answered :
    ∀ response gateway,
      plainGateway (path.countResponse response gateway) =
        path.countResponse response (plainGateway gateway)
  refused :
    ∀ gateway,
      plainGateway (path.countRejected (countError (path.countSent
          gateway))) =
        path.countResponse path.noExchange (plainGateway gateway)

theorem cancelPath_neutral (request : CancelRequest) :
    Neutral (cancelPath request) where
  inactive exchange absent :=
    ExchangeSimulator.cancelOrder_of_inactive
      (Finmap.lookup_eq_none.mpr absent)
  answered response gateway := by
    unfold ActionPath.countResponse
    split_ifs <;> rfl
  refused gateway := rfl

theorem amendPath_neutral (request : AmendRequest) :
    Neutral (amendPath request) where
  inactive exchange absent :=
    ExchangeSimulator.amendOrder_of_inactive
      (Finmap.lookup_eq_none.mpr absent)
  answered response gateway := by
    unfold ActionPath.countResponse
    split_ifs <;> rfl
  refused gateway := rfl

section Action

variable {Response : Type} {path : ActionPath Response}

/-- The state of a system after an action of its gateway. -/
def afterAction (wiring : Wiring) (system : System capacity)
    (path : ActionPath Response) : System capacity :=
  { system with
    toVenue := (sendAction wiring.venue system.toVenue path).2 }

/--
The two systems act alike.  Where the tracker refuses an action the exchange
does not know the order; elsewhere the answer of the exchange is returned.
-/
theorem sendAction_withoutTracker
    (riskManager : Bool) (synchronised : Synchronised system)
    (cyclic : path.Cyclic) (neutral : Neutral path) :
    afterAction (untracked riskManager) (withoutTracker system) path =
        withoutTracker (afterAction (tracked riskManager) system path) ∧
      ((path.sequenceId ∉ system.exchange.activeOrders ∧
          (sendAction (tracked riskManager).venue system.toVenue
            path).1 = path.refusal ∧
          (sendAction (untracked riskManager).venue
            (withoutTracker system).toVenue path).1 = path.noExchange) ∨
        (path.sequenceId ∈ system.exchange.activeOrders ∧
          (sendAction (tracked riskManager).venue system.toVenue
            path).1 = (path.execute system.exchange).1 ∧
          (sendAction (untracked riskManager).venue
            (withoutTracker system).toVenue path).1 =
              (path.execute system.exchange).1)) := by
  have detached :
      sendAction (untracked riskManager).venue
        (withoutTracker system).toVenue path = _ :=
    sendAction_of_untracked rfl
  have executes :
      executed (untracked riskManager).venue path
          (withoutTracker system).exchange =
        path.execute system.exchange := rfl
  rw [executes] at detached
  by_cases state :
      system.lifecycleTracker.stateOf path.sequenceId =
        some .exchangeAccepted
  · have active := (synchronised.active_iff _).mpr state
    rcases (stateOf_eq_some_iff _ _).mp state with ⟨record, found, accepted⟩
    have attached :
        sendAction (tracked riskManager).venue system.toVenue path = _ :=
      sendAction_of_accepted cyclic found accepted
    refine ⟨?_, Or.inr ⟨active, ?_, ?_⟩⟩
    · rw [afterAction, afterAction, attached, detached]
      simp only [withoutTracker, neutral.answered]
    · rw [attached]
    · rw [detached]
  · have inactive : path.sequenceId ∉ system.exchange.activeOrders :=
      fun active => state ((synchronised.active_iff _).mp active)
    obtain ⟨error, _, attached⟩ :=
      sendAction_of_illegal riskManager cyclic state
    rw [neutral.inactive _ inactive] at detached
    refine ⟨?_, Or.inl ⟨inactive, ?_, ?_⟩⟩
    · rw [afterAction, afterAction, attached, detached]
      simp only [withoutTracker, refusedAction, neutral.refused]
    · rw [attached]
    · rw [detached]

end Action

/-! ## Replies -/

/--
Two reasons are the same, except that one is `refused` exactly where the
other is `unknown`.
-/
def SameReason {Reason : Type} (refused unknown left right : Reason) :
    Prop :=
  (left = refused ↔ right = unknown) ∧ (left ≠ refused → left = right)

/-- The reply of a system with a tracker and that of one without. -/
inductive SameReply : Reply → Reply → Prop where
  | enqueued (accepted : Bool) :
      SameReply (.enqueued accepted) (.enqueued accepted)
  | drained (drainedNow : Nat) (attached detached : List DrainCall) :
      SameReply (.drained drainedNow attached)
        (.drained drainedNow detached)
  | cancelled {attached detached : CancelResponse}
      (accepted : attached.accepted = detached.accepted)
      (reason :
        SameReason .invalidState .unknownOrder attached.rejectReason
          detached.rejectReason) :
      SameReply (.cancelled attached) (.cancelled detached)
  | amended {attached detached : AmendResponse}
      (accepted : attached.accepted = detached.accepted)
      (reason :
        SameReason .invalidState .unknownOrder attached.rejectReason
          detached.rejectReason) :
      SameReply (.amended attached) (.amended detached)

/-- An answer of the exchange that names neither of the two reasons. -/
theorem SameReason.same {Reason : Type} {refused unknown reason : Reason}
    (notRefused : reason ≠ refused) (notUnknown : reason ≠ unknown) :
    SameReason refused unknown reason reason :=
  ⟨⟨fun equal => absurd equal notRefused,
      fun equal => absurd equal notUnknown⟩,
    fun _ => rfl⟩

theorem SameReason.exchanged {Reason : Type} (refused unknown : Reason) :
    SameReason refused unknown refused unknown :=
  ⟨⟨fun _ => rfl, fun _ => rfl⟩, fun different => absurd rfl different⟩

/-- A cancellation that reaches an active order is accepted. -/
theorem cancel_reason_of_active {exchange : ExchangeSimulator}
    {request : CancelRequest}
    (active : request.sequenceId ∈ exchange.activeOrders) :
    (exchange.cancelOrder request).1.rejectReason = .none := by
  rcases Finmap.mem_iff.mp active with ⟨order, found⟩
  rw [ExchangeSimulator.cancelOrder_of_active found]

/-- An amendment that reaches an active order is never unknown there. -/
theorem amend_reason_of_active {exchange : ExchangeSimulator}
    {request : AmendRequest}
    (active : request.sequenceId ∈ exchange.activeOrders) :
    (exchange.amendOrder request).1.rejectReason ≠ .invalidState ∧
      (exchange.amendOrder request).1.rejectReason ≠ .unknownOrder := by
  rcases Finmap.mem_iff.mp active with ⟨order, found⟩
  by_cases valid : ValidAmend request
  · rw [ExchangeSimulator.amendOrder_of_accepts found valid]
    constructor
    · show AmendRejectReason.none ≠ .invalidState
      decide
    · show AmendRejectReason.none ≠ .unknownOrder
      decide
  · obtain ⟨reason, _, known, permitted, result⟩ :=
      ExchangeSimulator.amendOrder_of_invalid found valid
    rw [result]
    exact ⟨permitted, known⟩

theorem sendCancel_reply
    (synchronised : Synchronised system) (request : CancelRequest) :
    SameReply
      (.cancelled
        (sendCancel (tracked riskManager).venue system.toVenue request).1)
      (.cancelled
        (sendCancel (untracked riskManager).venue
          (withoutTracker system).toVenue request).1) := by
  rcases
    (sendAction_withoutTracker riskManager synchronised
      (cancelPath_cyclic request) (cancelPath_neutral request)).2 with
    ⟨_, attached, detached⟩ | ⟨active, attached, detached⟩
  · rw [sendCancel, sendCancel, attached, detached]
    exact .cancelled rfl (.exchanged _ _)
  · rw [sendCancel, sendCancel, attached, detached]
    have reason :
        ((cancelPath request).execute system.exchange).1.rejectReason =
          .none :=
      cancel_reason_of_active active
    refine .cancelled rfl (.same ?_ ?_)
    · rw [reason]
      decide
    · rw [reason]
      decide

theorem sendAmend_reply
    (synchronised : Synchronised system) (request : AmendRequest) :
    SameReply
      (.amended
        (sendAmend (tracked riskManager).venue system.toVenue request).1)
      (.amended
        (sendAmend (untracked riskManager).venue
          (withoutTracker system).toVenue request).1) := by
  rcases
    (sendAction_withoutTracker riskManager synchronised
      (amendPath_cyclic request) (amendPath_neutral request)).2 with
    ⟨_, attached, detached⟩ | ⟨active, attached, detached⟩
  · rw [sendAmend, sendAmend, attached, detached]
    exact .amended rfl (.exchanged _ _)
  · rw [sendAmend, sendAmend, attached, detached]
    have reason := amend_reason_of_active active
    exact .amended rfl (.same reason.1 reason.2)

/-! ## Runs -/

/-- The id that an observation shows to have been accepted for queueing. -/
def acceptedId : Observation → Option UInt64
  | .enqueued request true => some request.sequenceId
  | _ => none

/-- The id that an observation shows to have been offered. -/
def offeredId : Observation → Option UInt64
  | .enqueued request _ => some request.sequenceId
  | _ => none

/-- No id is offered again after it was accepted. -/
def NoReuse (observations : List Observation) : Prop :=
  observations.Pairwise fun earlier later =>
    acceptedId earlier ≠ none → offeredId later ≠ acceptedId earlier

instance (observations : List Observation) :
    Decidable (NoReuse observations) :=
  inferInstanceAs (Decidable (observations.Pairwise _))

/-- An effect gives a record to the id that it accepts, and to no other. -/
theorem effect_records {observation : Observation}
    {next : System capacity}
    (effect : Effect riskManager system observation next)
    {sequenceId : UInt64}
    (known : sequenceId ∈ next.lifecycleTracker.records) :
    sequenceId ∈ system.lifecycleTracker.records ∨
      acceptedId observation = some sequenceId := by
  cases effect with
  | refusedAsKnown => exact Or.inl known
  | dropped => exact Or.inl known
  | joined =>
      rcases (mem_enqueued_records _ _ _).mp known with rfl | old
      · exact Or.inr rfl
      · exact Or.inl old
  | refusedByRisk queue found =>
      rcases (mem_marked_records _ _ _ _ _).mp known with rfl | old
      · exact Or.inl (Finmap.mem_of_lookup_eq_some found)
      · exact Or.inl old
  | acceptedOrder queue found =>
      exact Or.inl ((mem_completed_records _ _ _ _ found).mp known)
  | rejectedOrder queue found =>
      exact Or.inl ((mem_completed_records _ _ _ _ found).mp known)
  | cancelRefused => exact Or.inl known
  | cancelledOrder found =>
      exact Or.inl ((mem_completed_records _ _ _ _ found).mp known)
  | amendRefused => exact Or.inl known
  | acceptedAmend found =>
      exact Or.inl ((mem_completed_records _ _ _ _ found).mp known)
  | rejectedAmend found =>
      exact Or.inl ((mem_completed_records _ _ _ _ found).mp known)

/-- Every record of a run belongs to an id that was accepted before. -/
theorem runFresh_records (limits : RiskLimits) (journal : Bool)
    (calls : List Call) :
    ∀ sequenceId ∈
        (runFresh (tracked riskManager) limits journal calls :
          System capacity).lifecycleTracker.records,
      ∃ observation ∈
          observedFresh capacity (tracked riskManager) limits journal calls,
        acceptedId observation = some sequenceId := by
  refine runFresh_history
    (motive := fun past (state : System capacity) =>
      ∀ sequenceId ∈ state.lifecycleTracker.records,
        ∃ observation ∈ past, acceptedId observation = some sequenceId)
    ?_ ?_ calls
  · intro sequenceId known
    exact absurd known (Finmap.notMem_empty)
  · intro past state observation next _ effect held sequenceId known
    rcases effect_records effect known with old | new
    · rcases held sequenceId old with ⟨earlier, member, accepted⟩
      exact ⟨earlier, List.mem_append_left _ member, accepted⟩
    · have last : observation ∈ past ++ [observation] :=
        List.mem_append_right _ (List.mem_singleton_self _)
      exact ⟨observation, last, new⟩

/-- A call offers only ids that have no record yet. -/
def Permitted (system : System capacity) (call : Call) : Prop :=
  ∀ request, call = .enqueue request →
    request.sequenceId ∉ system.lifecycleTracker.records

/-- The step lemma: a permitted call answers alike in both systems. -/
theorem step_withoutTracker
    (synchronised : Synchronised system) (call : Call)
    (permitted : Permitted system call) :
    SameReply (step (tracked riskManager) system call).1
        (step (untracked riskManager) (withoutTracker system) call).1 ∧
      (step (untracked riskManager) (withoutTracker system) call).2 =
        withoutTracker (step (tracked riskManager) system call).2 := by
  cases call with
  | enqueue request =>
      have alike :=
        enqueue_withoutTracker riskManager
          (permitted request rfl)
      rw [step, step, alike]
      exact ⟨.enqueued _, rfl⟩
  | drain =>
      have alike :=
        drainLoop_withoutTracker riskManager
          (system.pipeline.buffer.size + 1) synchronised
      refine ⟨?_, alike.2⟩
      have counts :
          (drain (untracked riskManager) (withoutTracker system)).drainedNow =
            (drain (tracked riskManager) system).drainedNow :=
        alike.1
      rw [step, step, counts]
      exact .drained _ _ _
  | sendCancel request =>
      exact
        ⟨sendCancel_reply synchronised request,
          (sendAction_withoutTracker riskManager synchronised
            (cancelPath_cyclic request) (cancelPath_neutral request)).1⟩
  | sendAmend request =>
      exact
        ⟨sendAmend_reply synchronised request,
          (sendAction_withoutTracker riskManager synchronised
            (amendPath_cyclic request) (amendPath_neutral request)).1⟩

/-- Without reuse every call of a run is permitted. -/
theorem permitted_of_noReuse (limits : RiskLimits) (journal : Bool)
    (calls : List Call)
    (noReuse :
      NoReuse
        (observedFresh capacity (tracked riskManager) limits journal
          calls)) :
    ∀ entry ∈
        events (step (tracked riskManager))
          (fresh limits journal : System capacity) calls,
      Permitted entry.before entry.input := by
  induction calls using List.reverseRecOn with
  | nil =>
      intro entry member
      cases member
  | append_singleton calls last induction =>
      rw [observedFresh, observed, events_concat, List.flatMap_append]
        at noReuse
      rcases List.pairwise_append.mp noReuse with ⟨before, _, across⟩
      rw [events_concat]
      intro entry member
      rcases List.mem_append.mp member with old | new
      · exact induction before entry old
      · rw [List.mem_singleton] at new
        subst new
        intro request same known
        obtain ⟨earlier, seen, accepted⟩ :=
          runFresh_records limits journal calls request.sequenceId known
        cases same
        have apart :=
          across earlier seen _ (List.mem_flatMap.mpr
            ⟨_, List.mem_singleton_self _, List.mem_singleton_self _⟩)
        rw [accepted] at apart
        exact apart (Option.some_ne_none _) rfl

/-- The same call in a run with a tracker and in a run without one. -/
def Transparent
    (attached detached : Event (System capacity) Call Reply) : Prop :=
  SameReply attached.output detached.output ∧
    detached.after = withoutTracker attached.after

/--
Attaching a tracker changes nothing but the tracker and the lifecycle
counters: call by call the replies are the same, up to the name of the reason
for which an order that is not active cannot be cancelled or amended, and so
are the states.
-/
theorem run_tracker_transparent (riskManager journal : Bool)
    (limits : RiskLimits) (calls : List Call)
    (noReuse :
      NoReuse
        (observedFresh capacity (tracked riskManager) limits journal
          calls)) :
    List.Forall₂ Transparent
      (events (step (tracked riskManager))
        (fresh limits journal : System capacity) calls)
      (events (step (untracked riskManager))
        (fresh limits false : System capacity) calls) := by
  have kept :
      ∀ (state : System capacity) (call : Call),
        Synchronised state →
          Synchronised (step (tracked riskManager) state call).2 := by
    intro state call synchronised
    exact
      (step_effects synchronised call).invariant Synchronised
        (fun _ _ _ effect held => effect.synchronised held) synchronised
  exact
    events_simulation (step (tracked riskManager))
      (step (untracked riskManager)) Synchronised Permitted SameReply
      withoutTracker kept
      (fun _ call synchronised permitted =>
        step_withoutTracker synchronised call permitted)
      (Synchronised.fresh limits journal) calls
      (permitted_of_noReuse limits journal calls noReuse)

/-- An order that passes every check. -/
def sampleOrder : OrderRequest where
  sequenceId := 3
  symbol := .ofView (text "MSFT")
  side := .sell
  price := 50.0
  quantity := 4

/-- Calls before, during and after the life of an order. -/
def sampleCalls : List Call :=
  [.sendCancel { sequenceId := 3 },
    .enqueue sampleOrder,
    .sendAmend { sequenceId := 3, newPrice := 51.0, newQuantity := 4 },
    .drain,
    .sendAmend { sequenceId := 3, newPrice := 51.0, newQuantity := 0 },
    .sendCancel { sequenceId := 3 },
    .sendCancel { sequenceId := 3 }]

theorem run_tracker_transparent_sample :
    List.Forall₂ Transparent
      (events (step (tracked true)) (fresh {} true : System 2) sampleCalls)
      (events (step (untracked true)) (fresh {} false : System 2)
        sampleCalls) :=
  run_tracker_transparent true true {} sampleCalls (by decide)

end Llgw.TrackerTransparency
