import Llgw.ActionEffects
import Llgw.Foundation.Independence

/-!
# Actions on different orders are independent

The effects of actions on different orders commute, and none of them changes
what the other looks at.  So the interleaving of the action streams of any
number of clients shows in `last_error` and in the global order of the reports
only.
-/

namespace Llgw.ActionIndependence

open Llgw.Foundation.KeyedStore
open Llgw.Foundation.TransitionRun
open Llgw.Foundation.Independence
open Llgw.Messages
open Llgw.Reports
open Llgw.Exchange
open Llgw.Lifecycle
open Llgw.LifecycleMarks
open Llgw.LifecycleUpdates
open Llgw.Gateway
open Llgw.ActionEffects

inductive ActionRequest where
  | cancel (request : CancelRequest)
  | amend (request : AmendRequest)
deriving DecidableEq

inductive ActionResponse where
  | cancelled (response : CancelResponse)
  | amended (response : AmendResponse)
deriving DecidableEq

/-- The order that a request is about. -/
def orderOf : ActionRequest → UInt64
  | .cancel request => request.sequenceId
  | .amend request => request.sequenceId

/-- One request of a client. -/
def actionStep (wiring : GatewayWiring) (venue : Venue) :
    ActionRequest → ActionResponse × Venue
  | .cancel request =>
      let result := sendCancel wiring venue request
      (.cancelled result.1, result.2)
  | .amend request =>
      let result := sendAmend wiring venue request
      (.amended result.1, result.2)

/-! ## What is counted -/

/-- The three ways in which the gateway counts an action. -/
inductive GatewayOutcome where
  | refused
  | accepted
  | rejected

/-- The counting of an action by the gateway. -/
def gatewayCount {Response : Type} (path : ActionPath Response) :
    GatewayOutcome → OrderGateway → OrderGateway
  | .refused, gateway =>
      path.countRejected (countError (path.countSent gateway))
  | .accepted, gateway => path.countAccepted (path.countSent gateway)
  | .rejected, gateway => path.countRejected (path.countSent gateway)

/-- The counting of a request by the gateway. -/
def requestCount : ActionRequest → GatewayOutcome →
    OrderGateway → OrderGateway
  | .cancel request => gatewayCount (cancelPath request)
  | .amend request => gatewayCount (amendPath request)

theorem requestCount_commute (first second : ActionRequest)
    (left right : GatewayOutcome) :
    Function.Commute (requestCount first left)
      (requestCount second right) := by
  intro gateway
  cases first <;> cases second <;> cases left <;> cases right <;> rfl

theorem countFailure_commute (first second : LifecycleError) :
    Function.Commute (countFailure first) (countFailure second) := by
  intro errors
  cases first <;> cases second <;> rfl

/-- Everything that an effect counts is counted by incrementing. -/
structure Tallied {Response : Type} (request : ActionRequest)
    (effect : ActionEffect Response) : Prop where
  gateway :
    ∃ outcome, effect.countGateway = requestCount request outcome
  counters :
    effect.count = id ∨
      ∃ first second : Mark, effect.count = second.count ∘ first.count
  errors :
    effect.countErrors = id ∨
      ∃ error, effect.countErrors = countFailure error

section Commutation

variable {Response : Type} {first second : ActionRequest}
  {left right : ActionEffect Response}
  (leftTallied : Tallied first left)
  (rightTallied : Tallied second right)
include leftTallied rightTallied

theorem Tallied.gateway_commute :
    Function.Commute right.countGateway left.countGateway := by
  rcases leftTallied.gateway with ⟨leftOutcome, leftCount⟩
  rcases rightTallied.gateway with ⟨rightOutcome, rightCount⟩
  rw [leftCount, rightCount]
  exact requestCount_commute second first rightOutcome leftOutcome

theorem Tallied.counters_commute :
    Function.Commute right.count left.count := by
  rcases leftTallied.counters with same | ⟨one, two, leftCount⟩
  · rw [same]
    exact Function.Commute.id_right
  · rcases rightTallied.counters with same | ⟨three, four, rightCount⟩
    · rw [same]
      exact Function.Commute.id_left
    · rw [leftCount, rightCount]
      apply Function.Commute.comp_left
      · apply Function.Commute.comp_right
        · exact count_commute four two
        · exact count_commute four one
      · apply Function.Commute.comp_right
        · exact count_commute three two
        · exact count_commute three one

theorem Tallied.errors_commute :
    Function.Commute right.countErrors left.countErrors := by
  rcases leftTallied.errors with same | ⟨one, leftCount⟩
  · rw [same]
    exact Function.Commute.id_right
  · rcases rightTallied.errors with same | ⟨two, rightCount⟩
    · rw [same]
      exact Function.Commute.id_left
    · rw [leftCount, rightCount]
      exact countFailure_commute two one

/-- Effects on different orders commute. -/
theorem Tallied.applyTo_comm
    {leftId rightId : UInt64} (different : leftId ≠ rightId)
    (view : VenueView) :
    right.applyTo rightId (left.applyTo leftId view) =
      left.applyTo leftId (right.applyTo rightId view) := by
  ext1
  case gateway => exact leftTallied.gateway_commute rightTallied _
  case exchange =>
    simp only [ActionEffect.applyTo]
    rw [Write.applyTo_comm _ _ _ different]
  case records => exact Write.applyTo_comm _ _ _ different
  case counters => exact leftTallied.counters_commute rightTallied _
  case errors => exact leftTallied.errors_commute rightTallied _
  case journal =>
    simp only [ActionEffect.applyTo, Option.map_map]
    congr 1
    ext1 journal
    exact JournalView.recordAll_comm different _ _ journal

end Commutation

/-! ## The effect of a request -/

/-- The same effect with its response renamed. -/
def mapResponse {Response Response' : Type} (rename : Response → Response')
    (effect : ActionEffect Response) : ActionEffect Response' :=
  { effect with response := rename effect.response }

/-- The effect of a request in a venue. -/
def requestEffect (wiring : GatewayWiring) (view : VenueView) :
    ActionRequest → ActionEffect ActionResponse
  | .cancel request =>
      mapResponse .cancelled
        (effectIn wiring (cancelPath request) (cancelDecision request) view)
  | .amend request =>
      mapResponse .amended
        (effectIn wiring (amendPath request) (amendDecision request) view)

theorem actionStep_hasEffect (wiring : GatewayWiring) (venue : Venue)
    (request : ActionRequest) :
    HasEffect venue (orderOf request)
      (requestEffect wiring (venueView venue) request)
      (actionStep wiring venue request) := by
  cases request with
  | cancel request =>
      have effect : HasEffect venue _ _ (sendAction wiring venue _) :=
        sendAction_hasEffect (cancelPath_cyclic request)
          (cancelPath_local request)
      exact ⟨congrArg _ effect.response, effect.view⟩
  | amend request =>
      have effect : HasEffect venue _ _ (sendAction wiring venue _) :=
        sendAction_hasEffect (amendPath_cyclic request)
          (amendPath_local request)
      exact ⟨congrArg _ effect.response, effect.view⟩

theorem actionEffect_tallied {Response : Type}
    (path : ActionPath Response) (request : ActionRequest)
    (same : requestCount request = gatewayCount path)
    (attached : Bool) (answer : Response × Write OrderRequest)
    (record : Option OrderLifecycleRecord) :
    Tallied request (actionEffect path attached answer record) := by
  have refused (error : LifecycleError) :
      Tallied request (refusedEffect path error) := by
    refine ⟨⟨.refused, ?_⟩, Or.inl rfl, Or.inr ⟨error, rfl⟩⟩
    rw [same]
    rfl
  have counted :
      ∃ outcome, path.countResponse answer.1 = requestCount request outcome := by
    cases accepted : path.accepted answer.1 with
    | true =>
        refine ⟨.accepted, ?_⟩
        ext1 gateway
        rw [same, ActionPath.countResponse, accepted]
        rfl
    | false =>
        refine ⟨.rejected, ?_⟩
        ext1 gateway
        rw [same, ActionPath.countResponse, accepted]
        rfl
  have untracked : Tallied request (untrackedEffect path answer) :=
    ⟨counted, Or.inl rfl, Or.inl rfl⟩
  unfold actionEffect
  cases record with
  | none =>
      simp only
      split_ifs
      · exact refused .unknownOrder
      · exact untracked
  | some record =>
      simp only
      split_ifs
      · exact ⟨counted, Or.inr ⟨_, _, rfl⟩, Or.inl rfl⟩
      · exact refused .invalidTransition
      · exact untracked

theorem requestEffect_tallied (wiring : GatewayWiring) (view : VenueView)
    (request : ActionRequest) :
    Tallied request (requestEffect wiring view request) := by
  cases request with
  | cancel request =>
      have tallied := actionEffect_tallied (cancelPath request)
        (.cancel request) rfl wiring.lifecycleTracker
      exact ⟨(tallied _ _).gateway, (tallied _ _).counters,
        (tallied _ _).errors⟩
  | amend request =>
      have tallied := actionEffect_tallied (amendPath request)
        (.amend request) rfl wiring.lifecycleTracker
      exact ⟨(tallied _ _).gateway, (tallied _ _).counters,
        (tallied _ _).errors⟩

/-- An effect on one order does not change the effect on another. -/
theorem requestEffect_undisturbed (wiring : GatewayWiring)
    (view : VenueView) {request : ActionRequest} {other : UInt64}
    (different : orderOf request ≠ other)
    (effect : ActionEffect ActionResponse) :
    requestEffect wiring (effect.applyTo other view) request =
      requestEffect wiring view request := by
  cases request with
  | cancel request =>
      have apart : (cancelPath request).sequenceId ≠ other := different
      simp only [requestEffect, effectIn, ActionEffect.applyTo,
        Write.lookup_applyTo_of_ne _ _ apart]
  | amend request =>
      have apart : (amendPath request).sequenceId ≠ other := different
      simp only [requestEffect, effectIn, ActionEffect.applyTo,
        Write.lookup_applyTo_of_ne _ _ apart]

/-- Two requests for different orders have both effects of the first state. -/
theorem venueView_twice (wiring : GatewayWiring) (venue : Venue)
    {first second : ActionRequest}
    (different : orderOf first ≠ orderOf second) :
    venueView
        (actionStep wiring (actionStep wiring venue first).2 second).2 =
      (requestEffect wiring (venueView venue) second).applyTo
        (orderOf second)
        ((requestEffect wiring (venueView venue) first).applyTo
          (orderOf first) (venueView venue)) := by
  have before := actionStep_hasEffect wiring venue first
  have after :=
    actionStep_hasEffect wiring (actionStep wiring venue first).2 second
  rw [after.view, before.view,
    requestEffect_undisturbed wiring _ different.symm]

theorem actionStep_independent (wiring : GatewayWiring) :
    Independent (actionStep wiring) orderOf venueView where
  respects := by
    intro left right same request
    have leftEffect := actionStep_hasEffect wiring left request
    have rightEffect := actionStep_hasEffect wiring right request
    rw [leftEffect.response, rightEffect.response, leftEffect.view,
      rightEffect.view, same]
    exact ⟨rfl, rfl⟩
  undisturbed := by
    intro venue first second different
    have before := actionStep_hasEffect wiring venue first
    rw [(actionStep_hasEffect wiring _ second).response, before.view,
      requestEffect_undisturbed wiring _ different.symm,
      (actionStep_hasEffect wiring venue second).response]
  commutes := by
    intro venue first second different
    rw [venueView_twice wiring venue different,
      venueView_twice wiring venue different.symm]
    exact
      (requestEffect_tallied wiring _ first).applyTo_comm
        (requestEffect_tallied wiring _ second) different _

/-! ## Newly added reports -/

/-- The reports in the journal of a venue, if it has one. -/
def reportsOf (venue : Venue) : List ExecutionReport :=
  (venue.lifecycleTracker.executionReports.map
    ExecutionReportJournal.reports).getD []

/-- What the reports say on an order that were added between two states. -/
def newBodies (before after : Venue) (sequenceId : UInt64) :
    List ReportBody :=
  (((reportsOf after).drop (reportsOf before).length).filter fun report =>
    report.sequenceId == sequenceId).map reportBody

/-- What the reports of a venue say on an order. -/
def allBodies (venue : Venue) (sequenceId : UInt64) : List ReportBody :=
  ((reportsOf venue).filter fun report =>
    report.sequenceId == sequenceId).map reportBody

theorem allBodies_of_start {before after : Venue}
    (grown : reportsOf before <+: reportsOf after) (sequenceId : UInt64) :
    allBodies after sequenceId =
      allBodies before sequenceId ++ newBodies before after sequenceId := by
  rcases grown with ⟨added, appended⟩
  simp only [allBodies, newBodies, ← appended, List.drop_left,
    List.filter_append, List.map_append]

/-- A view shows what the reports say on every order. -/
theorem allBodies_of_view {left right : Venue}
    (same : venueView left = venueView right) :
    allBodies left = allBodies right := by
  have journals := congrArg VenueView.journal same
  ext1 sequenceId
  have shown (venue : Venue) :
      allBodies venue sequenceId =
        ((venueView venue).journal.map fun view =>
          view.bodies sequenceId).getD [] := by
    rw [allBodies, reportsOf, venueView]
    cases venue.lifecycleTracker.executionReports <;> rfl
  rw [shown, shown, journals]

/-- A journal only grows. -/
theorem reportsOf_marked (venue : Venue) (sequenceId : UInt64)
    (record : OrderLifecycleRecord) (mark : Mark) :
    reportsOf venue <+:
      reportsOf
        { venue with
          lifecycleTracker :=
            marked venue.lifecycleTracker sequenceId record mark } := by
  simp only [reportsOf, marked]
  cases venue.lifecycleTracker.executionReports with
  | none => exact List.prefix_rfl
  | some journal => exact List.prefix_append _ _

theorem reportsOf_sendAction {Response : Type} (wiring : GatewayWiring)
    (venue : Venue) {path : ActionPath Response} (cyclic : path.Cyclic) :
    reportsOf venue <+: reportsOf (sendAction wiring venue path).2 := by
  cases attached : wiring.lifecycleTracker with
  | false =>
      rw [sendAction_of_untracked attached]
      exact List.prefix_rfl
  | true =>
      rcases applyMark_cases venue.lifecycleTracker path.sequenceId
          path.pendingMark with
        ⟨record, legal, _⟩ | ⟨_, error, _, _, refused⟩
      · rw [sendAction_of_legal cyclic attached legal]
        have pending :=
          reportsOf_marked venue path.sequenceId record path.pendingMark
        exact pending.trans (reportsOf_marked _ path.sequenceId _ _)
      · rw [sendAction_of_refused attached refused]
        exact List.prefix_rfl

theorem reportsOf_run (wiring : GatewayWiring) (venue : Venue)
    (requests : List ActionRequest) :
    reportsOf venue <+:
      reportsOf (run (actionStep wiring) venue requests) := by
  apply
    run_invariant (actionStep wiring) fun later =>
      reportsOf venue <+: reportsOf later
  · exact List.prefix_rfl
  · intro later request grown
    apply grown.trans
    cases request with
    | cancel request =>
        exact reportsOf_sendAction wiring later (cancelPath_cyclic request)
    | amend request =>
        exact reportsOf_sendAction wiring later (amendPath_cyclic request)

/-! ## Any interleaving -/

/-- The counters of a journal. -/
def journalCounters (journal : ExecutionReportJournal) :
    UInt64 × Nat × Nat × Nat × Nat :=
  (journal.nextEventIndex, journal.reportsRecorded,
    journal.rejectionReports, journal.orderReports, journal.actionReports)

/-- Two states that differ at most in `last_error` and the order of reports. -/
structure SameOutcome (start left right : Venue) : Prop where
  gateway : left.gateway = right.gateway
  activeOrders : left.exchange.activeOrders = right.exchange.activeOrders
  seenSequenceIds :
    left.exchange.seenSequenceIds = right.exchange.seenSequenceIds
  records : left.lifecycleTracker.records = right.lifecycleTracker.records
  counters :
    left.lifecycleTracker.counters = right.lifecycleTracker.counters
  errors : left.lifecycleTracker.errors = right.lifecycleTracker.errors
  journal :
    left.lifecycleTracker.executionReports.map journalCounters =
      right.lifecycleTracker.executionReports.map journalCounters
  newReports :
    ∀ sequenceId,
      newBodies start left sequenceId = newBodies start right sequenceId

theorem sameOutcome_of_view {start left right : Venue}
    (leftGrown : reportsOf start <+: reportsOf left)
    (rightGrown : reportsOf start <+: reportsOf right)
    (same : venueView left = venueView right) :
    SameOutcome start left right where
  gateway := congrArg VenueView.gateway same
  activeOrders :=
    congrArg (fun view => view.exchange.activeOrders) same
  seenSequenceIds :=
    congrArg (fun view => view.exchange.seenSequenceIds) same
  records := congrArg VenueView.records same
  counters := congrArg VenueView.counters same
  errors := congrArg VenueView.errors same
  journal := by
    have shown (venue : Venue) :
        venue.lifecycleTracker.executionReports.map journalCounters =
          (venueView venue).journal.map fun view =>
            (view.nextEventIndex, view.reportsRecorded,
              view.rejectionReports, view.orderReports,
              view.actionReports) := by
      rw [venueView, Option.map_map]
      rfl
    rw [shown, shown, same]
  newReports := by
    intro sequenceId
    have bodies := congrFun (allBodies_of_view same) sequenceId
    rw [allBodies_of_start leftGrown, allBodies_of_start rightGrown]
      at bodies
    exact List.append_cancel_left bodies

/--
Two interleavings of the same requests that agree on the order of the requests
for each order give every request the same response and end in the same state,
apart from `last_error` and the global order of the reports.
-/
theorem actions_on_different_orders_are_independent
    (wiring : GatewayWiring) (venue : Venue)
    (first second : List ActionRequest)
    (reordered : Reordered orderOf first second) :
    (∀ sequenceId,
        repliesOf (actionStep wiring) orderOf sequenceId venue first =
          repliesOf (actionStep wiring) orderOf sequenceId venue second) ∧
      SameOutcome venue (run (actionStep wiring) venue first)
        (run (actionStep wiring) venue second) := by
  have same :=
    (actionStep_independent wiring).sameRun_of_order venue reordered.order
  constructor
  · exact same.replies
  · apply sameOutcome_of_view
    · exact reportsOf_run wiring venue first
    · exact reportsOf_run wiring venue second
    · exact same.final

/-- A cancellation of order 1, then an amendment and a cancellation of 2. -/
def cancelFirst : List ActionRequest :=
  [.cancel { sequenceId := 1 },
    .amend { sequenceId := 2, newPrice := 2.0, newQuantity := 5 },
    .cancel { sequenceId := 2 }]

/-- The same requests with the cancellation of order 1 in the middle. -/
def amendFirst : List ActionRequest :=
  [.amend { sequenceId := 2, newPrice := 2.0, newQuantity := 5 },
    .cancel { sequenceId := 1 },
    .cancel { sequenceId := 2 }]

theorem cancelFirst_reordered :
    Reordered orderOf cancelFirst amendFirst where
  perm := .swap _ _ _
  order := by
    intro one
    by_cases isFirst : (1 : UInt64) = one
    · subst isFirst
      rfl
    · simp only [inputsOf, cancelFirst, amendFirst, List.filter_cons,
        orderOf, isFirst, decide_false, Bool.false_eq_true, if_false]

/-- A venue in which orders 1 and 2 are active. -/
def busyVenue : Venue where
  exchange :=
    { seenSequenceIds := {1, 2}
      activeOrders :=
        ((∅ : Store UInt64 OrderRequest).insert 1
          { sequenceId := 1, price := 1.0, quantity := 10 }).insert 2
          { sequenceId := 2, price := 1.0, quantity := 10 } }
  lifecycleTracker :=
    { executionReports := some {}
      records :=
        ((∅ : Store UInt64 OrderLifecycleRecord).insert 1
          { sequenceId := 1, state := .exchangeAccepted }).insert 2
          { sequenceId := 2, state := .exchangeAccepted } }

theorem actions_on_different_orders_are_independent_busyVenue :
    let wiring : GatewayWiring :=
      { exchange := true, lifecycleTracker := true }
    (∀ sequenceId,
        repliesOf (actionStep wiring) orderOf sequenceId busyVenue
            cancelFirst =
          repliesOf (actionStep wiring) orderOf sequenceId busyVenue
            amendFirst) ∧
      SameOutcome busyVenue (run (actionStep wiring) busyVenue cancelFirst)
        (run (actionStep wiring) busyVenue amendFirst) :=
  actions_on_different_orders_are_independent _ busyVenue cancelFirst
    amendFirst cancelFirst_reordered

end Llgw.ActionIndependence
