import Llgw.OrderViews

/-!
# An order cannot tell whether it is alone

The calls about one id, less the offers that found the buffer full, can be
made on a system of their own, of whatever capacity.  That system shows of the
id what the shared one shows, and gives the same answers.
-/

namespace Llgw.OrderIsolation

open Llgw.Foundation.TransitionRun
open Llgw.Foundation.Projection
open Llgw.Messages
open Llgw.Buffer
open Llgw.Risk
open Llgw.Lifecycle
open Llgw.LifecycleMarks
open Llgw.Gateway
open Llgw.Pipeline
open Llgw.System
open Llgw.OrderAgreement
open Llgw.StepEffects
open Llgw.Effects
open Llgw.Synchronisation
open Llgw.OrderViews

variable {capacity capacity' : ℕ+}

/-- Every call but an offer that finds the buffer full. -/
def hasRoom : OrderCall → Bool
  | .offer _ room => room
  | _ => true

/-- The call of an event about an id, unless it is an offer without room. -/
def ownCall (sequenceId : UInt64)
    (entry : Event (System capacity) Call Reply) : Option Call :=
  ((callFor sequenceId entry).filter hasRoom).map fun _ => entry.input

/-- The answer to such a call. -/
def ownReply (sequenceId : UInt64)
    (entry : Event (System capacity) Call Reply) : Option OrderReply :=
  (ownCall sequenceId entry).bind fun _ => replyFor sequenceId entry

/-- A system shows of an id what a second one shows that holds no other. -/
structure Mirrors (limits : RiskLimits) (sequenceId : UInt64)
    (shared : System capacity) (alone : System capacity') : Prop where
  sharedDecided : Decided limits shared
  aloneDecided : Decided limits alone
  same : view shared sequenceId = view alone sequenceId
  only :
    ∀ order ∈ alone.pipeline.buffer.contents,
      order.sequenceId = sequenceId

section Alone

variable {limits : RiskLimits} {sequenceId : UInt64}
  {alone : System capacity}
  (only :
    ∀ order ∈ alone.pipeline.buffer.contents, order.sequenceId = sequenceId)
include only

/-- Only a known id can meet a full buffer when no other id is queued. -/
theorem offer_alone (decided : Decided limits alone)
    (risk : OrderRequest → Option RiskRejectReason)
    (request : OrderRequest) :
    orderStep risk (view alone sequenceId)
        (.offer request !alone.pipeline.buffer.full) =
      orderStep risk (view alone sequenceId) (.offer request true) := by
  cases known : (view alone sequenceId).record with
  | some _ => simp only [orderStep, known, Option.isNone_some,
      Bool.false_and]
  | none =>
      have unknown : sequenceId ∉ alone.lifecycleTracker.records :=
        Finmap.lookup_eq_none.mp known
      have waits := waitingFor_of_unknown decided.synchronised unknown
      have drained : alone.pipeline.buffer.contents = [] := by
        rw [List.eq_nil_iff_forall_not_mem]
        intro order member
        rw [waitingFor_eq_none_iff] at waits
        apply waits
        rw [← only order member]
        exact List.mem_map_of_mem member
      have room : alone.pipeline.buffer.full = false := by
        rw [Bool.eq_false_iff, Ne, RingBuffer.full_iff, drained]
        exact capacity.ne_zero.symm
      rw [room, Bool.not_false]

/-- A call about an id queues no other id. -/
theorem only_step (riskManager : Bool) (call : Call)
    (own :
      ∀ request, call = .enqueue request →
        request.sequenceId = sequenceId) :
    ∀ order ∈
        (step (tracked riskManager) alone call).2.pipeline.buffer.contents,
      order.sequenceId = sequenceId := by
  cases call with
  | enqueue request =>
      have effect := enqueue_effect riskManager alone request
      simp only [step]
      generalize enqueue (tracked riskManager) alone request = result
        at effect ⊢
      rcases result with ⟨accepted, next⟩
      cases effect with
      | refusedAsKnown => exact only
      | dropped => exact only
      | joined _ room =>
          simp only [RingBuffer.contents_push room]
          rw [List.forall_mem_append, List.forall_mem_singleton]
          exact ⟨only, own request rfl⟩
  | drain =>
      have drained :=
        (drain_trace (tracked riskManager) alone).1.orders.2
      simp only [step, drained]
      exact List.forall_mem_nil _
  | sendCancel request => exact only
  | sendAmend request => exact only

end Alone

/-- A call about an id on two systems, one of which holds no other id. -/
theorem callFor_alone {limits : RiskLimits} {sequenceId : UInt64}
    {shared : System capacity} {alone : System capacity'}
    (only :
      ∀ order ∈ alone.pipeline.buffer.contents,
        order.sequenceId = sequenceId)
    (decided : Decided limits alone)
    (risk : OrderRequest → Option RiskRejectReason)
    (riskManager : Bool) {call : Call} {small : OrderCall}
    (concerns :
      callFor sequenceId (event (step (tracked riskManager)) shared call) =
        some small)
    (room : hasRoom small = true) :
    ∃ small',
      callFor sequenceId (event (step (tracked riskManager)) alone call) =
          some small' ∧
        orderStep risk (view alone sequenceId) small' =
          orderStep risk (view alone sequenceId) small := by
  cases call with
  | enqueue request =>
      simp only [callFor, event, Option.ite_none_right_eq_some,
        Option.some.injEq] at concerns ⊢
      rcases concerns with ⟨own, rfl⟩
      rw [hasRoom] at room
      rw [room]
      exact ⟨_, ⟨own, rfl⟩, offer_alone only decided risk request⟩
  | drain => exact ⟨small, concerns, rfl⟩
  | sendCancel request => exact ⟨small, concerns, rfl⟩
  | sendAmend request => exact ⟨small, concerns, rfl⟩

theorem ownCall_eq_none_iff {sequenceId : UInt64}
    {entry : Event (System capacity) Call Reply} :
    ownCall sequenceId entry = none ↔
      ∀ small, callFor sequenceId entry = some small →
        hasRoom small = false := by
  simp only [ownCall, Option.map_eq_none_iff, Option.filter_eq_none_iff,
    Bool.not_eq_true]

theorem ownCall_eq_some_iff {sequenceId : UInt64}
    {entry : Event (System capacity) Call Reply} {call : Call} :
    ownCall sequenceId entry = some call ↔
      call = entry.input ∧
        ∃ small, callFor sequenceId entry = some small ∧
          hasRoom small = true := by
  simp only [ownCall, Option.map_eq_some_iff, Option.filter_eq_some_iff]
  constructor
  · rintro ⟨small, concerns, rfl⟩
    exact ⟨rfl, small, concerns⟩
  · rintro ⟨rfl, small, concerns⟩
    exact ⟨small, concerns, rfl⟩

/-- An offer without room changes nothing. -/
theorem orderStep_of_full (risk : OrderRequest → Option RiskRejectReason)
    (shown : OrderView) {small : OrderCall}
    (full : hasRoom small = false) :
    (orderStep risk shown small).2 = shown := by
  cases small with
  | offer request room =>
      rw [hasRoom] at full
      rw [orderStep, full, Bool.and_false]
      rfl
  | drain => contradiction
  | cancel request => contradiction
  | amend request => contradiction

/-- The step lemma: a lone system mirrors a shared one. -/
theorem step_mirrors (riskManager : Bool) (limits : RiskLimits)
    (sequenceId : UInt64) :
    Follows
      (step (tracked riskManager) :
        System capacity → Call → Reply × System capacity)
      (step (tracked riskManager) :
        System capacity' → Call → Reply × System capacity')
      (Mirrors limits sequenceId) (ownCall sequenceId)
      (ownReply sequenceId) (replyFor sequenceId) where
  unseen shared alone call mirrors silent := by
    have decided := mirrors.sharedDecided.step riskManager call
    have same :
        view (step (tracked riskManager) shared call).2 sequenceId =
          view shared sequenceId := by
      cases concerns :
          callFor sequenceId
            (event (step (tracked riskManager)) shared call) with
      | none => exact step_unshown mirrors.sharedDecided concerns
      | some small =>
          rw [(step_shown mirrors.sharedDecided concerns).1]
          exact
            orderStep_of_full _ _ (ownCall_eq_none_iff.mp silent _ concerns)
    constructor
    · exact
        { mirrors with
          sharedDecided := decided
          same := same.trans mirrors.same }
    · rw [ownReply, silent]
      rfl
  seen shared alone call call' mirrors own := by
    rcases ownCall_eq_some_iff.mp own with ⟨rfl, small, concerns, room⟩
    rcases
      callFor_alone mirrors.only mirrors.aloneDecided
        (decisions riskManager limits) riskManager concerns room with
      ⟨small', again, equal⟩
    have left := step_shown mirrors.sharedDecided concerns
    have right := step_shown mirrors.aloneDecided again
    rw [equal, ← mirrors.same] at right
    constructor
    · exact
        { sharedDecided := mirrors.sharedDecided.step riskManager call'
          aloneDecided := mirrors.aloneDecided.step riskManager call'
          same := left.1.trans right.1.symm
          only := by
            apply only_step mirrors.only
            rintro request rfl
            simp only [callFor, event, Option.ite_none_right_eq_some]
              at concerns
            exact concerns.1 }
    · rw [ownReply, own]
      exact left.2.trans right.2.symm

/--
An order cannot tell whether it is alone: made on a system of its own, of any
capacity, the calls about an id, less the offers that found no room, get the
answers they got among the calls about all other ids, and leave of this id the
same queue entry, record, active order and reports, apart from the event
indexes of the reports.
-/
theorem run_isolated (riskManager journal : Bool) (limits : RiskLimits)
    (calls : List Call) (sequenceId : UInt64) :
    let start : System capacity := fresh limits journal
    let alone : System capacity' := fresh limits journal
    let own :=
      projected (step (tracked riskManager)) (ownCall sequenceId) start calls
    view (runFresh (tracked riskManager) limits journal calls :
          System capacity) sequenceId =
        view (runFresh (tracked riskManager) limits journal own :
          System capacity') sequenceId ∧
      (events (step (tracked riskManager)) start calls).filterMap
          (ownReply sequenceId) =
        (events (step (tracked riskManager)) alone own).filterMap
          (replyFor sequenceId) := by
  have start :
      Mirrors limits sequenceId
        (fresh limits journal : System capacity)
        (fresh limits journal : System capacity') :=
    { sharedDecided := Decided.fresh limits journal
      aloneDecided := Decided.fresh limits journal
      same := rfl
      only := List.forall_mem_nil _ }
  have mirrored :=
    (step_mirrors riskManager limits sequenceId).run start calls
  exact ⟨mirrored.1.same, mirrored.2⟩

end Llgw.OrderIsolation
