import Llgw.OrderViews
import Llgw.RiskMonotone

/-!
# Tighter limits serve no more orders

Two systems get the same calls, and one of them has the tighter limits.  They
take in the same orders and drain them at the same calls.  An order fares
alike in both, unless the tighter check has refused it, and such an order never
reached the exchange.
-/

namespace Llgw.RiskTightening

open Llgw.Foundation
open Llgw.Foundation.TransitionRun
open Llgw.Foundation.Projection
open Llgw.Messages
open Llgw.Buffer
open Llgw.Risk
open Llgw.RiskFailClosed
open Llgw.RiskMonotone
open Llgw.Exchange
open Llgw.Lifecycle
open Llgw.LifecycleMarks
open Llgw.Gateway
open Llgw.Pipeline
open Llgw.System
open Llgw.StepEffects
open Llgw.OrderViews

variable {capacity : ℕ+}

/-! ## Tighter decisions -/

/-- Whatever the first check passes, the second passes as well. -/
def Tighter (tight loose : OrderRequest → Option RiskRejectReason) : Prop :=
  ∀ order, tight order = none → loose order = none

theorem passes_of_wider {limits wider : RiskLimits}
    (wide : Wider limits wider) {order : OrderRequest}
    (passes :
      (PreTradeRiskManager.ofLimits limits).firstFailure order = none) :
    (PreTradeRiskManager.ofLimits wider).firstFailure order = none := by
  rw [PreTradeRiskManager.firstFailure_eq_none_iff,
    ← accepted_iff_permits _ [], accepted_iff] at passes ⊢
  rcases passes with ⟨within, limit⟩
  constructor
  · exact
      { within with
        quantityLimit :=
          UInt32.le_trans within.quantityLimit wide.quantity
        allowed := wide.allowed within.allowed }
  · intro exceeds
    exact limit (FloatArithmetic.lt_of_le_of_lt wide.notional exceeds)

/-- Wider limits, and no risk manager at all, are looser. -/
theorem decisions_tighter {limits wider : RiskLimits}
    {riskManager : Bool} (wide : riskManager = true → Wider limits wider) :
    Tighter (decisions true limits) (decisions riskManager wider) := by
  intro order passes
  rw [decisions]
  split_ifs with checks
  · exact passes_of_wider (wide checks) passes
  · rfl

/-! ## One order under two checks -/

/-- An order fares alike under both checks, or the tighter one refused it. -/
inductive Served : OrderView → OrderView → Prop where
  | alike (shown : OrderView) : Served shown shown
  | refused {tight loose : OrderView} {record : OrderLifecycleRecord}
      (found : tight.record = some record)
      (state : record.state = .riskRejected)
      (idle : tight.waiting = none)
      (known : loose.record.isSome = true) :
      Served tight loose

section Orders

variable {tight loose : OrderRequest → Option RiskRejectReason}

/-- A record is never lost. -/
theorem orderStep_record {shown : OrderView}
    (known : shown.record.isSome = true) (call : OrderCall) :
    (orderStep loose shown call).2.record.isSome = true := by
  cases call with
  | offer request room =>
      simp only [orderStep]
      split_ifs
      · rfl
      · exact known
  | drain =>
      simp only [orderStep]
      split
      · simp only [settle]
        split <;> rfl
      · exact known
  | cancel request =>
      simp only [orderStep]
      split
      · rfl
      · exact known
  | amend request =>
      simp only [orderStep]
      split
      · rfl
      · exact known

theorem accepted_of_riskRejected {shown : OrderView}
    {record : OrderLifecycleRecord}
    (found : shown.record = some record)
    (state : record.state = .riskRejected) : shown.accepted = none := by
  rw [OrderView.accepted, Option.filter_eq_none_iff]
  intro other same
  rcases Option.some.inj (found.symm.trans same) with rfl
  rw [state]
  decide

/-- A refused order is beyond the reach of every call. -/
theorem orderStep_refused {shown : OrderView}
    {record : OrderLifecycleRecord}
    (found : shown.record = some record)
    (state : record.state = .riskRejected)
    (idle : shown.waiting = none) (call : OrderCall) :
    (orderStep tight shown call).2 = shown := by
  have dead := accepted_of_riskRejected found state
  cases call with
  | offer request room => simp [orderStep, found]
  | drain => simp only [orderStep, idle]
  | cancel request => simp only [orderStep, dead]
  | amend request => simp only [orderStep, dead]

/-- The step lemma: the same call on an order under each of the checks. -/
theorem orderStep_served (tighter : Tighter tight loose)
    {first second : OrderView} (served : Served first second)
    (call : OrderCall) :
    Served (orderStep tight first call).2
      (orderStep loose second call).2 := by
  cases served with
  | alike =>
      cases call with
      | offer request room => exact .alike _
      | cancel request => exact .alike _
      | amend request => exact .alike _
      | drain =>
          cases waits : first.waiting with
          | none =>
              simp only [orderStep, waits]
              exact .alike _
          | some order =>
              cases found : first.record with
              | none =>
                  simp only [orderStep, waits, found]
                  exact .alike _
              | some record =>
                  simp only [orderStep, waits, found]
                  cases decision : tight order with
                  | none =>
                      simp only [settle, decision, tighter order decision]
                      exact .alike _
                  | some reason =>
                      simp only [settle, decision]
                      apply Served.refused rfl
                      · exact Mark.moved_state _ _
                      · rfl
                      · split <;> rfl
  | refused found state idle known =>
      rw [orderStep_refused found state idle]
      exact .refused found state idle (orderStep_record known call)

end Orders

/-! ## Two systems with the same calls -/

/-- The same queue, and every order fares alike or was refused. -/
structure Tightened (limits wider : RiskLimits)
    (tight loose : System capacity) : Prop where
  tightDecided : Decided limits tight
  looseDecided : Decided wider loose
  contents :
    tight.pipeline.buffer.contents = loose.pipeline.buffer.contents
  served :
    ∀ sequenceId, Served (view tight sequenceId) (view loose sequenceId)

theorem Tightened.fresh (limits wider : RiskLimits) (journal : Bool) :
    Tightened limits wider (fresh limits journal : System capacity)
      (fresh wider journal) where
  tightDecided := Decided.fresh limits journal
  looseDecided := Decided.fresh wider journal
  contents := rfl
  served _ := .alike _

/-- What a tighter system answers, next to what a looser one does. -/
inductive NoMore : Reply → Reply → Prop where
  | enqueued (accepted : Bool) :
      NoMore (.enqueued accepted) (.enqueued accepted)
  /-- The same orders are drained. -/
  | drained {drainedNow : Nat} {calls calls' : List DrainCall}
      (orders :
        calls.map DrainCall.order = calls'.map DrainCall.order) :
      NoMore (.drained drainedNow calls) (.drained drainedNow calls')
  /-- What is cancelled is cancelled by both. -/
  | cancelled {response response' : CancelResponse}
      (accepted : response.accepted = true → response' = response) :
      NoMore (.cancelled response) (.cancelled response')
  /-- What is amended is amended by both. -/
  | amended {response response' : AmendResponse}
      (accepted : response.accepted = true → response' = response) :
      NoMore (.amended response) (.amended response')

section Systems

variable {limits wider : RiskLimits} {tight loose : System capacity}
  (tightened : Tightened limits wider tight loose)
include tightened

/-- Both systems know the same ids. -/
theorem Tightened.known (sequenceId : UInt64) :
    (view tight sequenceId).record.isSome =
      (view loose sequenceId).record.isSome := by
  have served := tightened.served sequenceId
  generalize view tight sequenceId = first,
    view loose sequenceId = second at served
  cases served with
  | alike => rfl
  | refused found _ _ known => rw [found, known]; rfl

/-- Both systems take in the same offers. -/
theorem Tightened.enqueue_accepted (riskManager : Bool)
    (request : OrderRequest) :
    (enqueue (tracked true) tight request).1 =
      (enqueue (tracked riskManager) loose request).1 := by
  rw [OrderViews.enqueue_accepted tightened.tightDecided.synchronised,
    OrderViews.enqueue_accepted tightened.looseDecided.synchronised,
    full_congr tightened.contents, ← Option.not_isSome,
    ← Option.not_isSome, tightened.known]

/-- What the tighter system cancels, the looser one cancels as well. -/
theorem Tightened.cancelled (riskManager : Bool) (request : CancelRequest)
    (accepted :
      (sendCancel (tracked true).venue tight.toVenue request).1.accepted =
        true) :
    (sendCancel (tracked riskManager).venue loose.toVenue request).1 =
      (sendCancel (tracked true).venue tight.toVenue request).1 := by
  have first :=
    sendCancel_alone tightened.tightDecided.synchronised true
      (fun _ => none) request
  have second :=
    sendCancel_alone tightened.looseDecided.synchronised riskManager
      (fun _ => none) request
  have served := tightened.served request.sequenceId
  generalize view tight request.sequenceId = shown at first served
  generalize view loose request.sequenceId = shown' at second served
  cases served with
  | alike => exact OrderReply.cancelled.inj (second.trans first.symm)
  | refused found state =>
      simp only [orderStep, accepted_of_riskRejected found state] at first
      rw [OrderReply.cancelled.inj first] at accepted
      contradiction

/-- What the tighter system amends, the looser one amends as well. -/
theorem Tightened.amended (riskManager : Bool) (request : AmendRequest)
    (accepted :
      (sendAmend (tracked true).venue tight.toVenue request).1.accepted =
        true) :
    (sendAmend (tracked riskManager).venue loose.toVenue request).1 =
      (sendAmend (tracked true).venue tight.toVenue request).1 := by
  have first :=
    sendAmend_alone tightened.tightDecided.synchronised true
      (fun _ => none) request
  have second :=
    sendAmend_alone tightened.looseDecided.synchronised riskManager
      (fun _ => none) request
  have served := tightened.served request.sequenceId
  generalize view tight request.sequenceId = shown at first served
  generalize view loose request.sequenceId = shown' at second served
  cases served with
  | alike => exact OrderReply.amended.inj (second.trans first.symm)
  | refused found state =>
      simp only [orderStep, accepted_of_riskRejected found state] at first
      rw [OrderReply.amended.inj first] at accepted
      contradiction

/-- The tighter system answers no more than the looser one. -/
theorem Tightened.noMore (riskManager : Bool) (call : Call) :
    NoMore (step (tracked true) tight call).1
      (step (tracked riskManager) loose call).1 := by
  cases call with
  | enqueue request =>
      simp only [step, tightened.enqueue_accepted riskManager]
      exact .enqueued _
  | drain =>
      have first := drain_trace (tracked true) tight
      have second := drain_trace (tracked riskManager) loose
      have drained :
          (drain (tracked true) tight).drainedNow =
            (drain (tracked riskManager) loose).drainedNow := by
        rw [first.2, second.2, tightened.contents]
      simp only [step, drained]
      apply NoMore.drained
      rw [first.1.orders.1, second.1.orders.1, tightened.contents]
  | sendCancel request =>
      exact .cancelled (tightened.cancelled riskManager request)
  | sendAmend request =>
      exact .amended (tightened.amended riskManager request)

/-- The step lemma: one call keeps a tighter system below a looser one. -/
theorem Tightened.step {riskManager : Bool}
    (tighter :
      Tighter (decisions true limits) (decisions riskManager wider))
    (call : Call) :
    Tightened limits wider (step (tracked true) tight call).2
      (step (tracked riskManager) loose call).2 where
  tightDecided := tightened.tightDecided.step true call
  looseDecided := tightened.looseDecided.step riskManager call
  contents :=
    step_contents_congr tightened.contents
      (tightened.enqueue_accepted riskManager) call
  served sequenceId := by
    have same :=
      callFor_congr tightened.contents (tracked true) (tracked riskManager)
        sequenceId call
    cases concerns :
        callFor sequenceId
          (event (System.step (tracked true)) tight call) with
    | none =>
        rw [step_unshown tightened.tightDecided concerns,
          step_unshown tightened.looseDecided (same.symm.trans concerns)]
        exact tightened.served sequenceId
    | some small =>
        rw [(step_shown tightened.tightDecided concerns).1,
          (step_shown tightened.looseDecided
            (same.symm.trans concerns)).1]
        exact orderStep_served tighter (tightened.served sequenceId) small

end Systems

/-- The order was refused by the check, and the exchange never saw it. -/
structure KeptBack (system : System capacity) (sequenceId : UInt64) :
    Prop where
  state : system.lifecycleTracker.stateOf sequenceId = some .riskRejected
  inactive : system.exchange.hasActiveOrder sequenceId = false
  unseen : sequenceId ∉ system.exchange.seenSequenceIds

theorem Tightened.keptBack {limits wider : RiskLimits}
    {tight loose : System capacity}
    (tightened : Tightened limits wider tight loose) (sequenceId : UInt64) :
    view tight sequenceId = view loose sequenceId ∨
      KeptBack tight sequenceId := by
  have synchronised := tightened.tightDecided.synchronised
  have served := tightened.served sequenceId
  generalize shown : view tight sequenceId = first at served ⊢
  cases served with
  | alike => exact Or.inl rfl
  | @refused _ record found state =>
      right
      rw [← shown] at found
      have refused :
          tight.lifecycleTracker.stateOf sequenceId =
            some .riskRejected :=
        (stateOf_eq_some_iff _ _).mpr ⟨record, found, state⟩
      constructor
      · exact refused
      · rw [← Bool.not_eq_true, ExchangeSimulator.hasActiveOrder_iff,
          synchronised.active_iff, refused]
        decide
      · rw [synchronised.seen_iff, refused]
        decide

/--
With tighter limits a system takes in, drains and answers the same offers, and
every order fares as it does with wider limits or with no risk manager at all,
unless the tighter check has kept it back.  So whatever is active at the
exchange under the tighter limits is active there, with the same terms, under
the wider ones.
-/
theorem run_tightened {limits wider : RiskLimits} {riskManager : Bool}
    (wide : riskManager = true → Wider limits wider) (journal : Bool)
    (calls : List Call) :
    let tight : System capacity :=
      runFresh (tracked true) limits journal calls
    let loose : System capacity :=
      runFresh (tracked riskManager) wider journal calls
    List.Forall₂ NoMore
        (outputs (step (tracked true))
          (fresh limits journal : System capacity) calls)
        (outputs (step (tracked riskManager))
          (fresh wider journal : System capacity) calls) ∧
      tight.pipeline.buffer.contents = loose.pipeline.buffer.contents ∧
      ∀ sequenceId,
        (view tight sequenceId = view loose sequenceId ∨
            KeptBack tight sequenceId) ∧
          ∀ order,
            tight.exchange.findActiveOrder sequenceId = some order →
              loose.exchange.findActiveOrder sequenceId = some order := by
  have tighter := decisions_tighter wide
  rcases
    run_related (step (tracked true)) (step (tracked riskManager))
      (Tightened limits wider) NoMore
      (fun _ _ call tightened =>
        ⟨tightened.noMore riskManager call, tightened.step tighter call⟩)
      (Tightened.fresh limits wider journal) calls with
    ⟨tightened, answers⟩
  refine ⟨answers, tightened.contents, fun sequenceId => ?_⟩
  have fares := tightened.keptBack sequenceId
  refine ⟨fares, fun order active => ?_⟩
  rcases fares with same | keptBack
  · exact (congrArg OrderView.active same).symm.trans active
  · have trades :
        (runFresh (tracked true) limits journal calls :
          System capacity).exchange.hasActiveOrder sequenceId = true := by
      rw [ExchangeSimulator.hasActiveOrder_iff]
      exact Finmap.mem_of_lookup_eq_some active
    exact absurd (trades.symm.trans keptBack.inactive) (by decide)

/-- An order of twenty, offered under a limit of ten and one of twenty. -/
theorem run_tightened_twenty :
    let calls : List Call :=
      [.enqueue
          { sequenceId := 1, symbol := .ofView (text "AAPL"), price := 1.0
            quantity := 20 },
        .drain, .sendCancel { sequenceId := 1 }]
    List.Forall₂ NoMore
      (outputs (step (tracked true))
        (fresh { maxOrderQuantity := 10 } true : System 1) calls)
      (outputs (step (tracked true))
        (fresh { maxOrderQuantity := 20 } true : System 1) calls) := by
  intro calls
  have wide :
      Wider { maxOrderQuantity := 10 } { maxOrderQuantity := 20 } := by
    constructor
    · decide
    · decide +kernel
    · exact Or.inl rfl
  exact (run_tightened (fun _ => wide) true calls).1

end Llgw.RiskTightening
