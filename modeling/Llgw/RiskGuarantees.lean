import Llgw.Synchronisation

/-!
# What the risk check guarantees

In a tracked system with a risk manager every order that passes `Check` is
accepted by the exchange, so the exchange refuses nothing.  Later amendments
are checked by the exchange alone: an active order is the one that passed the
check, rewritten by the amendments accepted since.
-/

namespace Llgw.RiskGuarantees

open Llgw.Foundation
open Llgw.Foundation.KeyedStore
open Llgw.Messages
open Llgw.Risk
open Llgw.Exchange
open Llgw.Lifecycle
open Llgw.Gateway
open Llgw.Pipeline
open Llgw.System
open Llgw.StepEffects
open Llgw.Effects
open Llgw.Synchronisation

variable {capacity : ℕ+} {riskManager : Bool} {system next : System capacity}
  {observation : Observation}

/-! ## Decisions do not depend on the run -/

/-- The tests of `Check` include those of `SubmitOrder`. -/
theorem validOrder_of_permits {manager : PreTradeRiskManager}
    {request : OrderRequest} (permits : manager.Permits request) :
    ValidOrder request where
  symbol := permits.symbol
  price := ⟨permits.finite, permits.positive⟩
  quantity := permits.quantity

/-- No effect changes a limit, so no effect changes a decision. -/
theorem firstFailure_of_effect
    (effect : Effect riskManager system observation next) :
    next.riskManager.firstFailure = system.riskManager.firstFailure := by
  cases effect with
  | refusedByRisk => exact PreTradeRiskManager.afterReject_firstFailure _ _
  | acceptedOrder => exact passedManager_firstFailure _ _
  | rejectedOrder => exact passedManager_firstFailure _ _
  | _ => rfl

/-! ## Acceptance by the check is acceptance by the exchange -/

/-- The iterations of `Drain` in a history. -/
def drainCalls (history : List Observation) : List DrainCall :=
  history.filterMap fun
    | .drained call => some call
    | _ => none

theorem drainCalls_concat (history : List Observation)
    (observation : Observation) :
    drainCalls (history ++ [observation]) =
      drainCalls history ++ drainCalls [observation] :=
  List.filterMap_append

/-- Whether the exchange accepted the order of an iteration. -/
def acceptedByExchange (call : DrainCall) : Bool :=
  match call.outcome with
  | .dispatched _ _ response => response.accepted
  | _ => false

/-- Whether a risk manager with these limits accepts the order. -/
def acceptedByCheck (limits : RiskLimits) (call : DrainCall) : Bool :=
  ((PreTradeRiskManager.ofLimits limits).check call.order).1.accepted

/--
An iteration in which the check decides alone: the exchange accepts what the
check accepts, and never sees what it refuses.
-/
inductive DecidedByCheck (limits : RiskLimits) : DrainCall → Prop where
  | refused {order : OrderRequest} {reason : RiskRejectReason}
      (failure :
        (PreTradeRiskManager.ofLimits limits).firstFailure order =
          some reason) :
      DecidedByCheck limits
        { order := order, outcome := .riskRejected reason }
  | accepted {order : OrderRequest}
      (passes :
        (PreTradeRiskManager.ofLimits limits).firstFailure order = none) :
      DecidedByCheck limits
        { order := order
          outcome :=
            .dispatched true (some .sent)
              { sequenceId := order.sequenceId, accepted := true,
                rejectReason := .none } }

theorem DecidedByCheck.agree {limits : RiskLimits} {call : DrainCall}
    (decided : DecidedByCheck limits call) :
    acceptedByExchange call = acceptedByCheck limits call := by
  rw [acceptedByCheck, PreTradeRiskManager.check_accepted_eq_accepts,
    PreTradeRiskManager.accepts]
  cases decided with
  | refused failure => rw [failure]; rfl
  | accepted passes => rw [passes]; rfl

/-- The state of a run in which the exchange has refused nothing. -/
structure NothingRefused (limits : RiskLimits)
    (history : List Observation) (system : System capacity) : Prop where
  decides :
    system.riskManager.firstFailure =
      (PreTradeRiskManager.ofLimits limits).firstFailure
  gateway : system.gateway.ordersRejected = 0
  pipeline : system.pipeline.ordersRejectedByGateway = 0
  tracker : system.lifecycleTracker.counters.ordersExchangeRejected = 0
  decided : ∀ call ∈ drainCalls history, DecidedByCheck limits call

/-- An observation that is not an iteration of `Drain` keeps the history. -/
theorem NothingRefused.extend {limits : RiskLimits}
    {history : List Observation}
    (holds : NothingRefused limits history system)
    (effect : Effect true system observation next)
    (gateway : next.gateway.ordersRejected = system.gateway.ordersRejected)
    (pipeline :
      next.pipeline.ordersRejectedByGateway =
        system.pipeline.ordersRejectedByGateway)
    (tracker :
      next.lifecycleTracker.counters.ordersExchangeRejected =
        system.lifecycleTracker.counters.ordersExchangeRejected)
    (decided :
      ∀ call ∈ drainCalls [observation], DecidedByCheck limits call) :
    NothingRefused limits (history ++ [observation]) next where
  decides := (firstFailure_of_effect effect).trans holds.decides
  gateway := gateway.trans holds.gateway
  pipeline := pipeline.trans holds.pipeline
  tracker := tracker.trans holds.tracker
  decided := by
    intro call member
    rw [drainCalls_concat, List.mem_append] at member
    rcases member with past | last
    · exact holds.decided call past
    · exact decided call last

/-- The step lemma: an order that the exchange refuses fails the check. -/
theorem NothingRefused.effect {limits : RiskLimits}
    {history : List Observation}
    (holds : NothingRefused limits history system)
    (effect : Effect true system observation next) :
    NothingRefused limits (history ++ [observation]) next := by
  have extend := holds.extend effect
  cases effect with
  | refusedByRisk queue found checks failure =>
      refine extend rfl rfl rfl ?_
      intro call member
      rw [List.mem_singleton.mp member]
      exact .refused (holds.decides ▸ failure)
  | acceptedOrder queue found passes valid =>
      refine extend rfl rfl rfl ?_
      intro call member
      rw [List.mem_singleton.mp member]
      exact .accepted (holds.decides ▸ passes rfl)
  | rejectedOrder queue found passes invalid =>
      have permits :=
        (PreTradeRiskManager.firstFailure_eq_none_iff _ _).mp (passes rfl)
      exact absurd (validOrder_of_permits permits) invalid
  | _ => exact extend rfl rfl rfl (by simp [drainCalls])

theorem nothingRefused_runFresh (limits : RiskLimits) (journal : Bool)
    (calls : List Call) :
    NothingRefused limits
      (observedFresh capacity (tracked true) limits journal calls)
      (runFresh (tracked true) limits journal calls : System capacity) :=
  runFresh_history (motive := NothingRefused limits)
    ⟨rfl, rfl, rfl, rfl, by simp [drainCalls]⟩
    (fun _ _ _ _ _ effect holds => holds.effect effect) calls

/-- The ids of the orders that the exchange accepted, oldest first. -/
def acceptedIds (history : List Observation) : List UInt64 :=
  ((drainCalls history).filter acceptedByExchange).map fun call =>
    call.order.sequenceId

theorem acceptedIds_concat (history : List Observation)
    (observation : Observation) :
    acceptedIds (history ++ [observation]) =
      acceptedIds history ++ acceptedIds [observation] := by
  rw [acceptedIds, drainCalls_concat, List.filter_append, List.map_append]
  rfl

/-- The exchange and the gateway have what was accepted on their books. -/
structure Booked (history : List Observation) (system : System capacity) :
    Prop where
  seen :
    ∀ sequenceId,
      sequenceId ∈ system.exchange.seenSequenceIds ↔
        sequenceId ∈ acceptedIds history
  accepted : system.gateway.ordersAccepted = (acceptedIds history).length

/-- An observation that accepts no order changes no book. -/
theorem Booked.extend {history : List Observation}
    (booked : Booked history system)
    (none : acceptedIds [observation] = [])
    (seen :
      next.exchange.seenSequenceIds = system.exchange.seenSequenceIds)
    (accepted :
      next.gateway.ordersAccepted = system.gateway.ordersAccepted) :
    Booked (history ++ [observation]) next where
  seen := by
    rw [acceptedIds_concat, none, List.append_nil, seen]
    exact booked.seen
  accepted := by
    rw [acceptedIds_concat, none, List.append_nil, accepted]
    exact booked.accepted

/-- The step lemma: an order is booked when the exchange accepts it. -/
theorem Booked.effect {history : List Observation}
    (booked : Booked history system)
    (effect : Effect riskManager system observation next) :
    Booked (history ++ [observation]) next := by
  cases effect with
  | @acceptedOrder order _ _ queue found passes valid =>
      constructor
      · intro sequenceId
        rw [acceptedIds_concat, List.mem_append, ← booked.seen, or_comm]
        exact
          Finset.mem_insert.trans (or_congr_left List.mem_singleton.symm)
      · rw [acceptedIds_concat, List.length_append, ← booked.accepted]
        rfl
  | _ => exact booked.extend rfl rfl rfl

theorem booked_runFresh (limits : RiskLimits) (journal : Bool)
    (calls : List Call) :
    Booked
      (observedFresh capacity (tracked riskManager) limits journal calls)
      (runFresh (tracked riskManager) limits journal calls :
        System capacity) :=
  runFresh_history (motive := Booked)
    ⟨by simp [fresh, acceptedIds, drainCalls], rfl⟩
    (fun _ _ _ _ _ effect booked => booked.effect effect) calls

/--
In every run with a risk manager the exchange accepts every order that the
check accepts, in the same order, and refuses none, least of all as a
duplicate.  The ids it has seen and the count of the gateway are those of the
orders it accepted.
-/
theorem run_check_subsumes_exchange (limits : RiskLimits) (journal : Bool)
    (calls : List Call) :
    let system : System capacity :=
      runFresh (tracked true) limits journal calls
    let drained :=
      drainCalls
        (observedFresh capacity (tracked true) limits journal calls)
    (∀ request,
        (system.riskManager.check request).1 =
          ((PreTradeRiskManager.ofLimits limits).check request).1) ∧
      (∀ call ∈ drained, acceptedByCheck limits call = true →
        ∃ markSent state,
          call.outcome =
            .dispatched markSent state
              { sequenceId := call.order.sequenceId, accepted := true,
                rejectReason := .none }) ∧
      (∀ call ∈ drained, ∀ markSent state response,
        call.outcome = .dispatched markSent state response →
          response.rejectReason ≠ .duplicateSequence) ∧
      (drained.filter acceptedByExchange).map
          (fun call => call.order.sequenceId) =
        (drained.filter (acceptedByCheck limits)).map
          (fun call => call.order.sequenceId) ∧
      (system.gateway.ordersRejected = 0 ∧
        system.pipeline.ordersRejectedByGateway = 0 ∧
        system.lifecycleTracker.counters.ordersExchangeRejected = 0) ∧
      (∀ sequenceId,
        sequenceId ∈ system.exchange.seenSequenceIds ↔
          sequenceId ∈
            (drained.filter acceptedByExchange).map
              (fun call => call.order.sequenceId)) ∧
      system.gateway.ordersAccepted =
        (drained.filter acceptedByExchange).length := by
  intro system drained
  have holds : NothingRefused limits _ system :=
    nothingRefused_runFresh limits journal calls
  have booked : Booked _ system :=
    booked_runFresh limits journal calls
  have accepted := booked.accepted
  rw [acceptedIds, List.length_map] at accepted
  refine
    ⟨?_, ?_, ?_, ?_, ⟨holds.gateway, holds.pipeline, holds.tracker⟩,
      booked.seen, accepted⟩
  · intro request
    rw [PreTradeRiskManager.check_eq, PreTradeRiskManager.check_eq,
      holds.decides]
    cases (PreTradeRiskManager.ofLimits limits).firstFailure request <;>
      rfl
  · intro call member accepted
    have decided := holds.decided call member
    rw [← decided.agree] at accepted
    cases decided with
    | refused => contradiction
    | accepted => exact ⟨true, some .sent, rfl⟩
  · intro call member markSent state response dispatched
    cases holds.decided call member with
    | refused => contradiction
    | accepted =>
        rcases DrainOutcome.dispatched.inj dispatched with ⟨_, _, rfl⟩
        simp
  · congr 1
    apply List.filter_congr
    intro call member
    exact (holds.decided call member).agree

/-! ## What is active was checked, and then amended -/

/-- The accepted amendments of an order in a history, oldest first. -/
def acceptedAmends (sequenceId : UInt64) (history : List Observation) :
    List AmendRequest :=
  history.filterMap fun
    | .amended request response =>
        if response.accepted && request.sequenceId == sequenceId then
          some request
        else none
    | _ => none

theorem acceptedAmends_concat (sequenceId : UInt64)
    (history : List Observation) (observation : Observation) :
    acceptedAmends sequenceId (history ++ [observation]) =
      acceptedAmends sequenceId history ++
        acceptedAmends sequenceId [observation] :=
  List.filterMap_append

/--
An active order is a checked submission, rewritten by the accepted amendments
of its id.  An id with an accepted amendment is never submitted again, since
it has been seen.
-/
structure CheckedThenAmended (limits : RiskLimits)
    (history : List Observation) (system : System capacity) : Prop where
  decides :
    system.riskManager.firstFailure =
      (PreTradeRiskManager.ofLimits limits).firstFailure
  active :
    ∀ sequenceId order,
      system.exchange.activeOrders.lookup sequenceId = some order →
        ∃ submitted,
          (PreTradeRiskManager.ofLimits limits).Permits submitted ∧
            order =
              (acceptedAmends sequenceId history).foldl amendedOrder
                submitted
  valid :
    ∀ sequenceId,
      ∀ request ∈ acceptedAmends sequenceId history, ValidAmend request
  seen :
    ∀ sequenceId, acceptedAmends sequenceId history ≠ [] →
      sequenceId ∈ system.exchange.seenSequenceIds

theorem checkedThenAmended_fresh (limits : RiskLimits) (journal : Bool) :
    CheckedThenAmended limits []
      (fresh limits journal : System capacity) where
  decides := rfl
  active := by
    intro sequenceId order active
    simp [fresh] at active
  valid := by simp [acceptedAmends]
  seen := by simp [acceptedAmends]

section Steps

variable {limits : RiskLimits} {history : List Observation}
  (holds : CheckedThenAmended limits history system)
include holds

/-- An effect without an amendment that adds no active order. -/
theorem CheckedThenAmended.extend
    (effect : Effect true system observation next)
    (amends :
      ∀ sequenceId, acceptedAmends sequenceId [observation] = [])
    (active :
      ∀ sequenceId order,
        next.exchange.activeOrders.lookup sequenceId = some order →
          system.exchange.activeOrders.lookup sequenceId = some order)
    (seen :
      system.exchange.seenSequenceIds ⊆ next.exchange.seenSequenceIds) :
    CheckedThenAmended limits (history ++ [observation]) next where
  decides := (firstFailure_of_effect effect).trans holds.decides
  active := by
    intro sequenceId order found
    rw [acceptedAmends_concat, amends, List.append_nil]
    exact holds.active sequenceId order (active sequenceId order found)
  valid := by
    intro sequenceId
    rw [acceptedAmends_concat, amends, List.append_nil]
    exact holds.valid sequenceId
  seen := by
    intro sequenceId
    rw [acceptedAmends_concat, amends, List.append_nil]
    exact fun some => seen (holds.seen sequenceId some)

theorem CheckedThenAmended.acceptedOrder
    (synchronised : Synchronised system)
    {order : OrderRequest} {rest : List OrderRequest}
    {record : OrderLifecycleRecord} {call : DrainCall}
    (effect :
      Effect true system (.drained call)
        (acceptedOrder (passedOn true system) order record))
    (queue : system.pipeline.buffer.contents = order :: rest)
    (passes : system.riskManager.firstFailure order = none) :
    CheckedThenAmended limits (history ++ [.drained call])
      (acceptedOrder (passedOn true system) order record) where
  decides := (firstFailure_of_effect effect).trans holds.decides
  active := by
    intro sequenceId active found
    rw [acceptedAmends_concat]
    rw [Effects.acceptedOrder, lookup_insert_eq_ite] at found
    split_ifs at found with same
    · subst same
      obtain rfl := Option.some.inj found
      have untouched :
          acceptedAmends order.sequenceId history = [] := by
        by_contra amended
        exact synchronised.unseen queue (holds.seen _ amended)
      refine ⟨order, ?_, ?_⟩
      · rw [← PreTradeRiskManager.firstFailure_eq_none_iff,
          ← holds.decides]
        exact passes
      · rw [untouched]
        rfl
    · rw [show acceptedAmends sequenceId [.drained call] = [] from rfl,
        List.append_nil]
      exact holds.active sequenceId active found
  valid := by
    intro sequenceId
    rw [acceptedAmends_concat]
    exact fun request member =>
      holds.valid sequenceId request (by simpa [acceptedAmends] using member)
  seen := by
    intro sequenceId amended
    rw [acceptedAmends_concat] at amended
    exact Finset.mem_insert_of_mem
      (holds.seen sequenceId (by simpa [acceptedAmends] using amended))

theorem CheckedThenAmended.acceptedAmend
    (synchronised : Synchronised system)
    {request : AmendRequest} {response : AmendResponse}
    {record : OrderLifecycleRecord} {order : OrderRequest}
    (answered : response.accepted = true)
    (effect :
      Effect true system (.amended request response)
        (acceptedAmend system request record order))
    (active :
      system.exchange.activeOrders.lookup request.sequenceId = some order)
    (valid : ValidAmend request) :
    CheckedThenAmended limits (history ++ [.amended request response])
      (acceptedAmend system request record order) := by
  have last (sequenceId : UInt64) :
      acceptedAmends sequenceId
          (history ++ [.amended request response]) =
        acceptedAmends sequenceId history ++
          if request.sequenceId = sequenceId then [request] else [] := by
    rw [acceptedAmends_concat]
    by_cases same : request.sequenceId = sequenceId <;>
      simp [acceptedAmends, answered, same]
  constructor
  · exact (firstFailure_of_effect effect).trans holds.decides
  · intro sequenceId found present
    rw [Effects.acceptedAmend, lookup_insert_eq_ite] at present
    rw [last]
    split_ifs at present with same
    · subst same
      obtain rfl := Option.some.inj present
      rcases holds.active _ order active with ⟨submitted, permits, rfl⟩
      refine ⟨submitted, permits, ?_⟩
      rw [if_pos rfl, List.foldl_append]
      rfl
    · rw [if_neg (Ne.symm same), List.append_nil]
      exact holds.active sequenceId found present
  · intro sequenceId other member
    rw [last, List.mem_append] at member
    rcases member with past | added
    · exact holds.valid sequenceId other past
    · split_ifs at added with same
      · rwa [List.mem_singleton.mp added]
      · contradiction
  · intro sequenceId amended
    by_cases same : request.sequenceId = sequenceId
    · subst same
      have state :=
        (synchronised.active_iff request.sequenceId).mp
          (Finmap.mem_of_lookup_eq_some active)
      exact (synchronised.seen_iff request.sequenceId).mpr (Or.inl state)
    · rw [last, if_neg same, List.append_nil] at amended
      exact holds.seen sequenceId amended

/-- The step lemma: only an accepted amendment rewrites an active order. -/
theorem CheckedThenAmended.effect
    (synchronised : Synchronised system)
    (effect : Effect true system observation next) :
    CheckedThenAmended limits (history ++ [observation]) next := by
  have extend := holds.extend effect
  have whole := effect
  cases effect with
  | refusedAsKnown | dropped | joined | cancelRefused | refusedByRisk =>
      exact extend (fun _ => rfl) (fun _ _ found => found)
        (Finset.Subset.refl _)
  | rejectedOrder =>
      exact extend (fun _ => rfl) (fun _ _ found => found)
        (Finset.Subset.refl _)
  | acceptedOrder queue found passes valid =>
      exact holds.acceptedOrder synchronised whole queue (passes rfl)
  | cancelledOrder =>
      refine extend (fun _ => rfl) ?_ (Finset.Subset.refl _)
      intro sequenceId order found
      rw [cancelledOrder, lookup_erase_eq_ite] at found
      split_ifs at found with same
      exact found
  | amendRefused =>
      exact extend (fun _ => rfl) (fun _ _ found => found)
        (Finset.Subset.refl _)
  | acceptedAmend found accepted active valid =>
      exact holds.acceptedAmend synchronised rfl whole active valid
  | rejectedAmend =>
      exact extend (fun _ => rfl) (fun _ _ found => found)
        (Finset.Subset.refl _)

end Steps

theorem checkedThenAmended_runFresh (limits : RiskLimits) (journal : Bool)
    (calls : List Call) :
    CheckedThenAmended limits
      (observedFresh capacity (tracked true) limits journal calls)
      (runFresh (tracked true) limits journal calls : System capacity) :=
  runFresh_history (motive := CheckedThenAmended limits)
    (checkedThenAmended_fresh limits journal)
    (fun _ _ _ _ synchronised effect holds =>
      holds.effect synchronised effect)
    calls

/-! ## Bounds on active orders -/

theorem foldl_amendedOrder_symbol (order : OrderRequest)
    (amends : List AmendRequest) :
    (amends.foldl amendedOrder order).symbol = order.symbol := by
  induction amends generalizing order with
  | nil => rfl
  | cons request rest induction => exact induction (amendedOrder order request)

/-- Only the latest of several amendments is visible. -/
theorem foldl_amendedOrder_last (order : OrderRequest)
    {amends : List AmendRequest} {request : AmendRequest}
    (last : amends.getLast? = some request) :
    (amends.foldl amendedOrder order).price = request.newPrice ∧
      (amends.foldl amendedOrder order).quantity =
        request.newQuantity := by
  rcases List.getLast?_eq_some_iff.mp last with ⟨earlier, rfl⟩
  rw [List.foldl_append]
  exact ⟨rfl, rfl⟩

/--
Whatever is active in a run with a risk manager has a permitted symbol, a
finite positive price and a quantity.  As long as no amendment of it was
accepted it is within the quantity and notional limits; afterwards it has
exactly the terms of the latest accepted amendment.
-/
theorem run_active_order_bounded (limits : RiskLimits)
    (number : ¬ limits.maxOrderNotional.isNaN = true) (journal : Bool)
    (calls : List Call) (sequenceId : UInt64) (order : OrderRequest)
    (active :
      (runFresh (tracked true) limits journal calls :
          System capacity).exchange.findActiveOrder sequenceId =
        some order) :
    let amends :=
      acceptedAmends sequenceId
        (observedFresh capacity (tracked true) limits journal calls)
    (order.symbol.view ≠ [] ∧
        (PreTradeRiskManager.ofLimits limits).isAllowedSymbol order =
          true) ∧
      (order.price.isFinite = true ∧ 0.0 < order.price ∧
        order.quantity ≠ 0) ∧
      (amends = [] →
        order.quantity ≤ limits.maxOrderQuantity ∧
          (PreTradeRiskManager.notional order).isFinite = true ∧
          PreTradeRiskManager.notional order ≤ limits.maxOrderNotional) ∧
      (∀ request, amends.getLast? = some request →
        order.price = request.newPrice ∧
          order.quantity = request.newQuantity) := by
  intro amends
  have holds :
      CheckedThenAmended limits _
        (runFresh (tracked true) limits journal calls : System capacity) :=
    checkedThenAmended_runFresh limits journal calls
  rcases holds.active sequenceId order active with ⟨submitted, permits, rfl⟩
  have symbol := foldl_amendedOrder_symbol submitted amends
  refine ⟨⟨symbol ▸ permits.symbol, ?_⟩, ?_, ?_,
    fun request => foldl_amendedOrder_last submitted⟩
  · rw [PreTradeRiskManager.isAllowedSymbol_congr _ symbol]
    exact permits.allowed
  · have terms :
        ValidPrice (amends.foldl amendedOrder submitted).price ∧
          (amends.foldl amendedOrder submitted).quantity ≠ 0 := by
      cases last : amends.getLast? with
      | none =>
          rw [List.getLast?_eq_none_iff.mp last]
          exact ⟨⟨permits.finite, permits.positive⟩, permits.quantity⟩
      | some request =>
          have valid :=
            holds.valid sequenceId request (List.mem_of_getLast? last)
          have written := foldl_amendedOrder_last submitted last
          rw [written.1, written.2]
          exact ⟨valid.price, valid.quantity⟩
    exact ⟨terms.1.1, validPrice_pos terms.1, terms.2⟩
  · intro none
    rw [show acceptedAmends sequenceId _ = [] from none]
    exact
      ⟨permits.quantityLimit, permits.notionalFinite,
        FloatOrder.le_of_not_lt
          (FloatOrder.not_isNaN_of_isFinite permits.notionalFinite)
          number permits.notionalLimit⟩

/-- An order of ten AAPL at 100. -/
def tenShares : OrderRequest where
  sequenceId := 1
  symbol := .ofView (text "AAPL")
  side := .buy
  price := 100.0
  quantity := 10

/-- An amendment of that order to five thousand. -/
def amendBeyondLimit : AmendRequest where
  sequenceId := 1
  newPrice := 100.0
  newQuantity := 5000

theorem run_active_order_bounded_tenShares :
    tenShares.quantity ≤ ({} : RiskLimits).maxOrderQuantity ∧
      (PreTradeRiskManager.notional tenShares).isFinite = true ∧
      PreTradeRiskManager.notional tenShares ≤
        ({} : RiskLimits).maxOrderNotional := by
  have active :
      (runFresh (tracked true) {} false [.enqueue tenShares, .drain] :
          System 4).exchange.findActiveOrder 1 = some tenShares := by
    decide
  have bounded := run_active_order_bounded {} (by decide) _ _ _ _ active
  exact bounded.2.2.1 (by decide)

/--
An amendment is not checked against the limits of the risk manager, which
allow orders of 1000 by default.
-/
theorem amended_order_exceeds_limits :
    ¬ ∀ (limits : RiskLimits), ¬ limits.maxOrderNotional.isNaN = true →
      ∀ (calls : List Call) (sequenceId : UInt64) (order : OrderRequest),
        (runFresh (tracked true) limits false calls :
            System 4).exchange.findActiveOrder sequenceId = some order →
          order.quantity ≤ limits.maxOrderQuantity ∧
            (PreTradeRiskManager.notional order).isFinite = true ∧
            PreTradeRiskManager.notional order ≤ limits.maxOrderNotional ∧
            (PreTradeRiskManager.ofLimits limits).isAllowedSymbol order =
              true := by
  intro claim
  have bounded :=
    claim {} (by decide)
      [.enqueue tenShares, .drain, .sendAmend amendBeyondLimit] 1
      (amendedOrder tenShares amendBeyondLimit) (by decide)
  exact absurd bounded.1 (by decide)

end Llgw.RiskGuarantees
