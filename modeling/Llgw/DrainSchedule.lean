import Llgw.LifecycleUpdates
import Llgw.Synchronisation

/-!
# When to drain

Orders may be drained one by one, all at the end, or in any batches.  As long
as the buffer never overflows the choice cannot be observed: an order that is
offered while others wait commutes with the processing of the one at the head
of the queue.
-/

namespace Llgw.DrainSchedule

open Llgw.Foundation.TransitionRun
open Llgw.Foundation.KeyedStore
open Llgw.Messages
open Llgw.Buffer
open Llgw.Risk
open Llgw.Exchange
open Llgw.Lifecycle
open Llgw.LifecycleMarks
open Llgw.LifecycleUpdates
open Llgw.Gateway
open Llgw.Pipeline
open Llgw.System
open Llgw.StepEffects
open Llgw.Effects
open Llgw.Synchronisation

variable {capacity : ℕ+}

/-- A gateway and a pipeline on an exchange, each with or without the rest. -/
def wired (riskManager lifecycleTracker : Bool) : Wiring where
  venue := { exchange := true, lifecycleTracker := lifecycleTracker }
  gateway := true
  riskManager := riskManager
  lifecycleTracker := lifecycleTracker

/-! ## States that cannot be told apart -/

/-- The counters of a pipeline without its buffer. -/
def counted (pipeline : OrderPipeline capacity) : OrderPipeline capacity :=
  { pipeline with buffer := .fresh }

/--
Two systems agree except for the places of the buffer that hold the queue
and the interleaving of the journal.
-/
structure Alike (left right : System capacity) : Prop where
  exchange : left.exchange = right.exchange
  gateway : left.gateway = right.gateway
  riskManager : left.riskManager = right.riskManager
  tracker : SameTracker left.lifecycleTracker right.lifecycleTracker
  contents :
    left.pipeline.buffer.contents = right.pipeline.buffer.contents
  counters : counted left.pipeline = counted right.pipeline

namespace Alike

variable {left middle right : System capacity}

theorem refl (system : System capacity) : Alike system system :=
  ⟨rfl, rfl, rfl, .refl _, rfl, rfl⟩

theorem symm (alike : Alike left right) : Alike right left :=
  ⟨alike.exchange.symm, alike.gateway.symm, alike.riskManager.symm,
    alike.tracker.symm, alike.contents.symm, alike.counters.symm⟩

theorem trans (first : Alike left middle) (second : Alike middle right) :
    Alike left right :=
  ⟨first.exchange.trans second.exchange,
    first.gateway.trans second.gateway,
    first.riskManager.trans second.riskManager,
    first.tracker.trans second.tracker,
    first.contents.trans second.contents,
    first.counters.trans second.counters⟩

theorem full (alike : Alike left right) :
    left.pipeline.buffer.full = right.pipeline.buffer.full := by
  rw [Bool.eq_iff_iff, RingBuffer.full_iff, RingBuffer.full_iff,
    alike.contents]

theorem known_iff (alike : Alike left right) (sequenceId : UInt64) :
    sequenceId ∈ left.lifecycleTracker.records ↔
      sequenceId ∈ right.lifecycleTracker.records := by
  rw [alike.tracker.records]

end Alike

section Wired

variable {riskManager attached : Bool} {system : System capacity}

/-! ## Enqueue -/

/-- The tracker after an order joined the queue, if there is one. -/
def enqueuedIf (attached : Bool) (tracker : OrderLifecycleTracker)
    (sequenceId : UInt64) : OrderLifecycleTracker :=
  if attached then enqueued tracker sequenceId else tracker

theorem enqueuedIf_same {left right : OrderLifecycleTracker}
    (same : SameTracker left right) (attached : Bool)
    (sequenceId : UInt64) :
    SameTracker (enqueuedIf attached left sequenceId)
      (enqueuedIf attached right sequenceId) := by
  cases attached with
  | false => exact same
  | true =>
      exact same.updated (enqueued_updated _ _) (enqueued_updated _ _)

/-- `Enqueue` does not tell systems apart that are alike. -/
theorem enqueue_alike {left right : System capacity}
    (alike : Alike left right) (wiring : Wiring)
    (request : OrderRequest) :
    (enqueue wiring left request).1 = (enqueue wiring right request).1 ∧
      Alike (enqueue wiring left request).2
        (enqueue wiring right request).2 := by
  rcases enqueue_cases wiring left request with
    ⟨tracker, known⟩ | unknown
  · rw [enqueue_of_known tracker known,
      enqueue_of_known tracker ((alike.known_iff _).mp known)]
    refine ⟨rfl, { alike with counters := ?_ }⟩
    exact
      congrArg
        (fun pipeline : OrderPipeline capacity =>
          { pipeline with
            ordersRejectedByLifecycleOnEnqueue :=
              pipeline.ordersRejectedByLifecycleOnEnqueue + 1 })
        alike.counters
  · have unknown' :
        wiring.lifecycleTracker = true →
          request.sequenceId ∉ right.lifecycleTracker.records :=
      fun tracker known =>
        unknown tracker ((alike.known_iff _).mpr known)
    cases room : left.pipeline.buffer.full with
    | true =>
        have room' := alike.full ▸ room
        rw [enqueue_of_full unknown room, enqueue_of_full unknown' room']
        refine ⟨rfl, { alike with counters := ?_ }⟩
        exact
          congrArg
            (fun pipeline : OrderPipeline capacity =>
              { pipeline with
                ordersDroppedOnEnqueue :=
                  pipeline.ordersDroppedOnEnqueue + 1 })
            alike.counters
    | false =>
        have room' := alike.full ▸ room
        rw [enqueue_of_room unknown room, enqueue_of_room unknown' room']
        refine ⟨rfl,
          { exchange := alike.exchange
            gateway := alike.gateway
            riskManager := alike.riskManager
            tracker := enqueuedIf_same alike.tracker _ _
            contents := ?_
            counters := ?_ }⟩
        · simp only [joined, RingBuffer.contents_push room,
            RingBuffer.contents_push room', alike.contents]
        · exact
            congrArg
              (fun pipeline : OrderPipeline capacity =>
                { pipeline with
                  ordersEnqueued := pipeline.ordersEnqueued + 1 })
              alike.counters

/-! ## One order -/

/-- The tracker after a submission was answered, if there is a tracker. -/
def completedIf (attached : Bool) (tracker : OrderLifecycleTracker)
    (sequenceId : UInt64) (record : OrderLifecycleRecord)
    (first second : Mark) : OrderLifecycleTracker :=
  if attached then completed tracker sequenceId record first second
  else tracker

section Trackers

variable (sequenceId : UInt64) (record : OrderLifecycleRecord)
  (first second : Mark)

theorem markedIf_same {left right : OrderLifecycleTracker}
    (same : SameTracker left right) :
    SameTracker (markedIf attached left sequenceId record first)
      (markedIf attached right sequenceId record first) := by
  cases attached with
  | false => exact same
  | true =>
      exact same.updated (marked_updated _ _ _ _) (marked_updated _ _ _ _)

variable (attached) in
theorem completedIf_same {left right : OrderLifecycleTracker}
    (same : SameTracker left right) :
    SameTracker (completedIf attached left sequenceId record first second)
      (completedIf attached right sequenceId record first second) := by
  cases attached with
  | false => exact same
  | true =>
      exact
        same.updated (completed_updated _ _ _ _ _)
          (completed_updated _ _ _ _ _)

variable {sequenceId} {other : UInt64} (tracker : OrderLifecycleTracker)
  (different : attached = true → other ≠ sequenceId)
include different

theorem markedIf_enqueuedIf :
    SameTracker
      (markedIf attached (enqueuedIf attached tracker other) sequenceId
        record first)
      (enqueuedIf attached
        (markedIf attached tracker sequenceId record first) other) := by
  cases attached with
  | false => exact .refl _
  | true =>
      exact
        Updated.commute (different rfl) (enqueuedCount_commute other first)
          (enqueued_updated _ _) (marked_updated _ _ _ _)
          (marked_updated _ _ _ _) (enqueued_updated _ _)

theorem completedIf_enqueuedIf :
    SameTracker
      (completedIf attached (enqueuedIf attached tracker other) sequenceId
        record first second)
      (enqueuedIf attached
        (completedIf attached tracker sequenceId record first second)
        other) := by
  cases attached with
  | false => exact .refl _
  | true =>
      have counts :=
        (enqueuedCount_commute other second).comp_right
          (enqueuedCount_commute other first)
      exact
        Updated.commute (different rfl) counts
          (enqueued_updated _ _) (completed_updated _ _ _ _ _)
          (completed_updated _ _ _ _ _) (enqueued_updated _ _)

end Trackers

/-- The reason for which the risk check, if there is one, refuses an order. -/
def riskFailure (riskManager : Bool) (system : System capacity)
    (order : OrderRequest) : Option RiskRejectReason :=
  if riskManager then system.riskManager.firstFailure order else none

/-- The state in which an order reaches `dispatch`. -/
def letThrough (riskManager attached : Bool) (system : System capacity) :
    System capacity :=
  { system with
    riskManager :=
      passedManager (wired riskManager attached) system.riskManager }

/-- The state after an order with this record has been processed. -/
def handled (riskManager attached : Bool) (system : System capacity)
    (order : OrderRequest) (record : OrderLifecycleRecord) :
    System capacity :=
  match riskFailure riskManager system order with
  | some reason =>
      refusedByRisk (wired riskManager attached) system order record reason
  | none =>
      submitted (wired riskManager attached)
        (letThrough riskManager attached system) order record

theorem drainOrder_handled
    {order : OrderRequest} {record : OrderLifecycleRecord}
    (waiting :
      Waiting (wired riskManager attached) system.lifecycleTracker
        order.sequenceId record) :
    (drainOrder (wired riskManager attached) system order).2 =
      handled riskManager attached system order record := by
  cases failure : riskFailure riskManager system order with
  | some reason =>
      have checks : riskManager = true := by
        by_contra absent
        simp [riskFailure, absent] at failure
      have fails : system.riskManager.firstFailure order = some reason := by
        simpa [riskFailure, checks] using failure
      rw [drainOrder_of_failure checks fails waiting, handled, failure]
  | none =>
      have passes :
          riskManager = true →
            system.riskManager.firstFailure order = none := by
        intro checks
        simpa [riskFailure, checks] using failure
      have result :
          drainOrder (wired riskManager attached) system order = _ :=
        (drainOrder_of_pass passes).trans
          (dispatch_of_waiting rfl rfl waiting)
      rw [result, handled, failure]
      rfl

theorem counted_countOutcome
    (response : OrderResponse) (pipeline : OrderPipeline capacity) :
    counted (countOutcome response pipeline) =
      countOutcome response (counted pipeline) := by
  unfold countOutcome
  split_ifs <;> rfl

theorem countOutcome_buffer
    (response : OrderResponse) (pipeline : OrderPipeline capacity) :
    (countOutcome response pipeline).buffer = pipeline.buffer := by
  unfold countOutcome
  split_ifs <;> rfl

/-- Processing an order does not tell systems apart that are alike. -/
theorem handled_alike {left right : System capacity}
    (alike : Alike left right) (order : OrderRequest)
    (record : OrderLifecycleRecord) :
    Alike (handled riskManager attached left order record)
      (handled riskManager attached right order record) := by
  have failures :
      riskFailure riskManager left order =
        riskFailure riskManager right order := by
    rw [riskFailure, riskFailure, alike.riskManager]
  cases failure : riskFailure riskManager right order with
  | some reason =>
      rw [handled, handled, failures, failure]
      exact
        { exchange := alike.exchange
          gateway := alike.gateway
          riskManager :=
            congrArg
              (fun manager : PreTradeRiskManager =>
                manager.afterReject reason)
              alike.riskManager
          tracker := markedIf_same _ _ _ alike.tracker
          contents := alike.contents
          counters := congrArg (countRiskReject reason) alike.counters }
  | none =>
      rw [handled, handled, failures, failure]
      exact
        { exchange := by
            simp only [submitted, letThrough, alike.exchange]
          gateway := by
            simp only [submitted, letThrough, alike.exchange,
              alike.gateway]
          riskManager := by
            simp only [submitted, letThrough, alike.riskManager]
          tracker := by
            have same :=
              completedIf_same attached order.sequenceId
                record .sent
                (responseMark (left.exchange.submitOrder order).1)
                alike.tracker
            simp only [submitted, letThrough]
            rw [← alike.exchange]
            exact same
          contents := by
            simp only [submitted, letThrough, countOutcome_buffer,
              alike.contents]
          counters := by
            simp only [submitted, letThrough, counted_countOutcome,
              alike.exchange, alike.counters] }

/-- Another order may join before or after an order is processed. -/
theorem handled_joined
    {request order : OrderRequest}
    (different :
      attached = true → request.sequenceId ≠ order.sequenceId)
    (record : OrderLifecycleRecord) :
    Alike
      (handled riskManager attached
        (joined (wired riskManager attached) system request) order record)
      (joined (wired riskManager attached)
        (handled riskManager attached system order record) request) := by
  have failures :
      riskFailure riskManager
          (joined (wired riskManager attached) system request) order =
        riskFailure riskManager system order := rfl
  cases failure : riskFailure riskManager system order with
  | some reason =>
      rw [handled, handled, failures, failure]
      exact
        { exchange := rfl
          gateway := rfl
          riskManager := rfl
          tracker := markedIf_enqueuedIf record _ _ different
          contents := rfl
          counters := rfl }
  | none =>
      rw [handled, handled, failures, failure]
      exact
        { exchange := rfl
          gateway := rfl
          riskManager := rfl
          tracker := completedIf_enqueuedIf record _ _ _ different
          contents := by
            simp only [submitted, letThrough, joined, countOutcome_buffer]
          counters := by
            simp only [submitted, letThrough, joined]
            unfold countOutcome
            split_ifs <;> rfl }

/-- A repeated offer may be refused before or after an order is processed. -/
theorem handled_refusedAsKnown
    (order : OrderRequest) (record : OrderLifecycleRecord) :
    Alike
      (handled riskManager attached (refusedAsKnown system) order record)
      (refusedAsKnown
        (handled riskManager attached system order record)) := by
  have failures :
      riskFailure riskManager (refusedAsKnown system) order =
        riskFailure riskManager system order := rfl
  cases failure : riskFailure riskManager system order with
  | some reason =>
      rw [handled, handled, failures, failure]
      exact ⟨rfl, rfl, rfl, .refl _, rfl, rfl⟩
  | none =>
      rw [handled, handled, failures, failure]
      exact
        { exchange := rfl
          gateway := rfl
          riskManager := rfl
          tracker := .refl _
          contents := by
            simp only [submitted, letThrough, refusedAsKnown,
              countOutcome_buffer]
          counters := by
            simp only [submitted, letThrough, refusedAsKnown]
            unfold countOutcome
            split_ifs <;> rfl }

/-- Processing an order adds no record. -/
theorem mem_handled_records
    {order : OrderRequest} {record : OrderLifecycleRecord}
    (waiting :
      Waiting (wired riskManager attached) system.lifecycleTracker
        order.sequenceId record)
    (sequenceId : UInt64) :
    sequenceId ∈
        (handled riskManager attached system order
          record).lifecycleTracker.records ↔
      sequenceId ∈ system.lifecycleTracker.records := by
  cases attached with
  | false =>
      unfold handled
      split <;> rfl
  | true =>
      have found := waiting.found rfl
      unfold handled
      split
      · refine (mem_marked_records _ _ _ _ _).trans ⟨?_, Or.inr⟩
        rintro (rfl | old)
        · exact Finmap.mem_of_lookup_eq_some found
        · exact old
      · exact mem_completed_records _ _ _ _ found

/-! ## The head of the queue -/

/-- The state after the order at the head of the queue was processed. -/
def next (wiring : Wiring) (system : System capacity)
    (order : OrderRequest) : System capacity :=
  (drainOrder wiring (popped system (restBuffer system)) order).2

/-- With a tracker, queue, tracker and exchange agree. -/
def Clean (attached : Bool) (system : System capacity) : Prop :=
  attached = true → Synchronised system

section Head

variable {order : OrderRequest} {rest : List OrderRequest}
  (clean : Clean attached system)
  (queue : system.pipeline.buffer.contents = order :: rest)

omit riskManager in
include clean queue in
theorem Clean.waiting (riskManager : Bool) :
    ∃ record,
      Waiting (wired riskManager attached)
        (popped system (restBuffer system)).lifecycleTracker
        order.sequenceId record := by
  cases attached with
  | false => exact ⟨{}, .of_detached rfl _ _ _⟩
  | true =>
      rcases (clean rfl).waiting queue with ⟨record, found, state⟩
      exact ⟨record, fun _ => found, fun _ => state⟩

include clean queue in
theorem clean_next :
    Clean attached (next (wired riskManager attached) system order) := by
  rintro rfl
  have synchronised := clean rfl
  exact
    (drainOrder_effect riskManager synchronised
      queue).synchronised synchronised

include queue in
theorem contents_next (wiring : Wiring) :
    (next wiring system order).pipeline.buffer.contents = rest := by
  rw [next, drainOrder_buffer]
  exact contents_restBuffer queue

include clean queue in
/-- Systems that are alike remain so when the same order is processed. -/
theorem next_alike {other : System capacity}
    (alike : Alike system other) :
    Alike (next (wired riskManager attached) system order)
      (next (wired riskManager attached) other order) := by
  rcases clean.waiting queue riskManager with ⟨record, waiting⟩
  have waiting' :
      Waiting (wired riskManager attached)
        (popped other (restBuffer other)).lifecycleTracker
        order.sequenceId record := by
    refine ⟨fun tracker => ?_, waiting.queued⟩
    have found := waiting.found tracker
    have same := alike.tracker.records
    rw [← found]
    exact congrArg (Finmap.lookup order.sequenceId) same.symm
  have poppedAlike :
      Alike (popped system (restBuffer system))
        (popped other (restBuffer other)) :=
    { exchange := alike.exchange
      gateway := alike.gateway
      riskManager := alike.riskManager
      tracker := alike.tracker
      contents :=
        (contents_restBuffer queue).trans
          (contents_restBuffer (alike.contents.symm.trans queue)).symm
      counters :=
        congrArg
          (fun pipeline : OrderPipeline capacity =>
            { pipeline with ordersDrained := pipeline.ordersDrained + 1 })
          alike.counters }
  rw [next, next, drainOrder_handled waiting, drainOrder_handled waiting']
  exact handled_alike poppedAlike order record

include clean queue in
/-- An order that joins behind the head of the queue. -/
theorem next_joined {request : OrderRequest}
    (room : system.pipeline.buffer.full = false)
    (unknown :
      attached = true →
        request.sequenceId ∉ system.lifecycleTracker.records) :
    Alike
      (next (wired riskManager attached)
        (joined (wired riskManager attached) system request) order)
      (joined (wired riskManager attached)
        (next (wired riskManager attached) system order) request) := by
  rcases clean.waiting queue riskManager with ⟨record, waiting⟩
  have different :
      attached = true → request.sequenceId ≠ order.sequenceId := by
    intro tracker same
    refine unknown tracker ?_
    rw [same]
    exact Finmap.mem_of_lookup_eq_some (waiting.found tracker)
  have queue' :
      (joined (wired riskManager attached) system
          request).pipeline.buffer.contents =
        order :: (rest ++ [request]) := by
    simp only [joined, RingBuffer.contents_push room, queue,
      List.cons_append]
  have room' : (restBuffer system).full = false :=
    RingBuffer.full_of_rest queue (contents_restBuffer queue)
  have waiting' :
      Waiting (wired riskManager attached)
        (popped (joined (wired riskManager attached) system request)
          (restBuffer
            (joined (wired riskManager attached) system
              request))).lifecycleTracker
        order.sequenceId record := by
    refine ⟨fun tracker => ?_, waiting.queued⟩
    have found := waiting.found tracker
    have kept :=
      (enqueued_updated system.lifecycleTracker
        request.sequenceId).records
    simp only [popped, joined, tracker, if_true, kept]
    rw [Finmap.lookup_insert_of_ne _ (different tracker).symm]
    exact found
  have start :
      Alike
        (popped (joined (wired riskManager attached) system request)
          (restBuffer
            (joined (wired riskManager attached) system request)))
        (joined (wired riskManager attached)
          (popped system (restBuffer system)) request) :=
    { exchange := rfl
      gateway := rfl
      riskManager := rfl
      tracker := .refl _
      contents := by
        have appended :=
          RingBuffer.contents_push room' request
        rw [contents_restBuffer queue] at appended
        exact (contents_restBuffer queue').trans appended.symm
      counters := rfl }
  rw [next, next, drainOrder_handled waiting, drainOrder_handled waiting']
  exact
    (handled_alike start order record).trans
      (handled_joined different record)

variable (riskManager) in
include clean queue in
/--
Offering an order and processing the head of the queue commute while the
buffer has room, and the offer is answered alike.
-/
theorem enqueue_next
    (room : system.pipeline.buffer.full = false)
    (request : OrderRequest) :
    let wiring := wired riskManager attached
    (enqueue wiring system request).1 =
        (enqueue wiring (next wiring system order) request).1 ∧
      Alike (next wiring (enqueue wiring system request).2 order)
        (enqueue wiring (next wiring system order) request).2 := by
  intro wiring
  rcases clean.waiting queue riskManager with ⟨record, waiting⟩
  have processed :
      next wiring system order =
        handled riskManager attached (popped system (restBuffer system))
          order record :=
    drainOrder_handled waiting
  have known_iff := mem_handled_records waiting request.sequenceId
  rw [← processed] at known_iff
  have shorter :
      (next wiring system order).pipeline.buffer.full = false :=
    RingBuffer.full_of_rest queue (contents_next queue wiring)
  rcases enqueue_cases wiring system request with
    ⟨tracker, known⟩ | unknown
  · rw [enqueue_of_known tracker known,
      enqueue_of_known tracker (known_iff.mpr known)]
    refine ⟨rfl, ?_⟩
    have start :
        next wiring (refusedAsKnown system) order =
          handled riskManager attached
            (refusedAsKnown (popped system (restBuffer system))) order
            record :=
      drainOrder_handled waiting
    rw [start, processed]
    exact handled_refusedAsKnown order record
  · have unknown' :
        attached = true →
          request.sequenceId ∉
            (next wiring system order).lifecycleTracker.records :=
      fun tracker known => unknown tracker (known_iff.mp known)
    rw [enqueue_of_room unknown room, enqueue_of_room unknown' shorter]
    exact ⟨rfl, next_joined clean queue room unknown⟩

end Head

/-! ## A whole drain -/

/-- The state after a drain. -/
def finish (wiring : Wiring) (system : System capacity) :
    System capacity :=
  (drain wiring system).system

theorem finish_of_empty (wiring : Wiring)
    (drained : system.pipeline.buffer.contents = []) :
    finish wiring system = system := by
  simp only [finish, drain, drainLoop, drainStep_of_empty drained]

/-- A drain processes the head of the queue and goes on. -/
theorem finish_of_contents (wiring : Wiring)
    {order : OrderRequest} {rest : List OrderRequest}
    (queue : system.pipeline.buffer.contents = order :: rest) :
    finish wiring system = finish wiring (next wiring system order) := by
  have size : system.pipeline.buffer.size = rest.length + 1 := by
    rw [← RingBuffer.length_contents, queue, List.length_cons]
  have shorter :
      (next wiring system order).pipeline.buffer.size = rest.length := by
    rw [← RingBuffer.length_contents, contents_next queue wiring]
  rw [finish, drain, size, drainLoop, drainStep_of_contents queue, finish,
    drain, shorter]
  rfl

theorem contents_finish (wiring : Wiring) (system : System capacity) :
    (finish wiring system).pipeline.buffer.contents = [] :=
  (drain_trace wiring system).1.orders.2

/-- Systems that are alike remain so when both are drained. -/
theorem finish_alike {other : System capacity}
    (clean : Clean attached system) (alike : Alike system other) :
    Alike (finish (wired riskManager attached) system)
      (finish (wired riskManager attached) other) := by
  induction queue : system.pipeline.buffer.contents
    generalizing system other with
  | nil =>
      have queue' := alike.contents.symm.trans queue
      rw [finish_of_empty _ queue, finish_of_empty _ queue']
      exact alike
  | cons order rest induction =>
      have queue' := alike.contents.symm.trans queue
      rw [finish_of_contents _ queue, finish_of_contents _ queue']
      exact
        induction (clean_next clean queue) (next_alike clean queue alike)
          (contents_next queue _)

theorem clean_finish (clean : Clean attached system) :
    Clean attached (finish (wired riskManager attached) system) := by
  induction queue : system.pipeline.buffer.contents
    generalizing system with
  | nil =>
      rw [finish_of_empty _ queue]
      exact clean
  | cons order rest induction =>
      rw [finish_of_contents _ queue]
      exact induction (clean_next clean queue) (contents_next queue _)

theorem clean_enqueue (clean : Clean attached system)
    (request : OrderRequest) :
    Clean attached
      (enqueue (wired riskManager attached) system request).2 := by
  rintro rfl
  exact
    (enqueue_effect riskManager system
      request).synchronised (clean rfl)

/-- `Enqueue` leaves what is in front of the queue. -/
theorem enqueue_contents (wiring : Wiring) (system : System capacity)
    (request : OrderRequest) :
    ∃ tail,
      (enqueue wiring system request).2.pipeline.buffer.contents =
        system.pipeline.buffer.contents ++ tail := by
  rcases enqueue_cases wiring system request with
    ⟨tracker, known⟩ | unknown
  · rw [enqueue_of_known tracker known]
    exact ⟨[], (List.append_nil _).symm⟩
  · cases room : system.pipeline.buffer.full with
    | true =>
        rw [enqueue_of_full unknown room]
        exact ⟨[], (List.append_nil _).symm⟩
    | false =>
        rw [enqueue_of_room unknown room]
        exact ⟨[request], RingBuffer.contents_push room request⟩

variable (riskManager) in
/-- An order may be offered before or after all others are drained. -/
theorem finish_enqueue
    (clean : Clean attached system)
    (room : system.pipeline.buffer.full = false)
    (request : OrderRequest) :
    let wiring := wired riskManager attached
    (enqueue wiring system request).1 =
        (enqueue wiring (finish wiring system) request).1 ∧
      Alike (finish wiring (enqueue wiring system request).2)
        (finish wiring
          (enqueue wiring (finish wiring system) request).2) := by
  intro wiring
  induction queue : system.pipeline.buffer.contents
    generalizing system with
  | nil =>
      rw [finish_of_empty wiring queue]
      exact ⟨rfl, .refl _⟩
  | cons order rest induction =>
      rcases enqueue_contents wiring system request with ⟨tail, appended⟩
      rw [queue, List.cons_append] at appended
      have shorter :
          (next wiring system order).pipeline.buffer.full = false :=
        RingBuffer.full_of_rest queue (contents_next queue wiring)
      have offered :=
        enqueue_next riskManager clean queue room request
      have later :=
        induction (clean_next clean queue) shorter (contents_next queue _)
      rw [finish_of_contents wiring queue,
        finish_of_contents wiring appended]
      refine ⟨offered.1.trans later.1, ?_⟩
      have cleanNext :
          Clean attached
            (next wiring (enqueue wiring system request).2 order) :=
        clean_next (clean_enqueue clean request) appended
      exact (finish_alike cleanNext offered.2).trans later.2

end Wired

/-- `Enqueue` counts nothing as drained. -/
theorem enqueue_ordersDrained (wiring : Wiring) (system : System capacity)
    (request : OrderRequest) :
    (enqueue wiring system request).2.pipeline.ordersDrained =
      system.pipeline.ordersDrained := by
  rcases enqueue_cases wiring system request with
    ⟨tracker, known⟩ | unknown
  · rw [enqueue_of_known tracker known]
    rfl
  · cases room : system.pipeline.buffer.full with
    | true =>
        rw [enqueue_of_full unknown room]
        rfl
    | false =>
        rw [enqueue_of_room unknown room]
        rfl

/-! ## Schedules -/

/-- The order that a call offers. -/
def offered : Call → Option OrderRequest
  | .enqueue request => some request
  | _ => none

/-- What the calls of `Enqueue` returned, in order. -/
def enqueueReplies (replies : List Reply) : List Bool :=
  replies.filterMap fun
    | .enqueued accepted => some accepted
    | _ => none

/-- The sum of what the calls of `Drain` returned. -/
def drainTotal (replies : List Reply) : Nat :=
  (replies.filterMap fun
    | .drained drainedNow _ => some drainedNow
    | _ => none).sum

/-- An order is offered only while the buffer has room. -/
def HasRoom (entry : Event (System capacity) Call Reply) : Prop :=
  offered entry.input ≠ none → entry.before.pipeline.buffer.full = false

instance (entry : Event (System capacity) Call Reply) :
    Decidable (HasRoom entry) :=
  inferInstanceAs (Decidable (_ → _))

/-- A call that a schedule may make. -/
def Scheduled (call : Call) : Prop :=
  call = .drain ∨ offered call ≠ none

instance (call : Call) : Decidable (Scheduled call) :=
  inferInstanceAs (Decidable (_ ∨ _))

/--
A schedule of requests: it offers exactly these, in this order and only into
a buffer with room, drains at any other points, and drains at the end.
-/
structure Schedule (capacity : ℕ+) (wiring : Wiring) (limits : RiskLimits)
    (journal : Bool) (requests : List OrderRequest) (calls : List Call) :
    Prop where
  offers : calls.filterMap offered = requests
  scheduled : ∀ call ∈ calls, Scheduled call
  room :
    ∀ entry ∈
        events (step wiring) (fresh limits journal : System capacity) calls,
      HasRoom entry
  drains : calls.getLast? = some .drain

/-- Offer an order and drain at once. -/
def eagerStep (wiring : Wiring) (system : System capacity)
    (request : OrderRequest) : Bool × System capacity :=
  ((enqueue wiring system request).1,
    finish wiring (enqueue wiring system request).2)

/-- What a schedule shows when drained equals what the eager run shows. -/
structure Eager (riskManager attached : Bool)
    (initial : System capacity) (calls : List Call) : Prop where
  clean :
    Clean attached (run (step (wired riskManager attached)) initial calls)
  final :
    Alike
      (finish (wired riskManager attached)
        (run (step (wired riskManager attached)) initial calls))
      (run (eagerStep (wired riskManager attached)) initial
        (calls.filterMap offered))
  replies :
    enqueueReplies
        (outputs (step (wired riskManager attached)) initial calls) =
      outputs (eagerStep (wired riskManager attached)) initial
        (calls.filterMap offered)
  total :
    drainTotal
        (outputs (step (wired riskManager attached)) initial calls) =
      (run (step (wired riskManager attached)) initial
        calls).pipeline.ordersDrained

section Runs

variable {riskManager attached : Bool} {initial : System capacity}
  {calls : List Call}

/-- One more drain. -/
theorem Eager.drain (eager : Eager riskManager attached initial calls) :
    Eager riskManager attached initial (calls ++ [.drain]) := by
  have offers :
      (calls ++ [Call.drain]).filterMap offered = calls.filterMap offered := by
    rw [List.filterMap_append]
    exact List.append_nil _
  constructor
  · rw [run_concat]
    exact clean_finish eager.clean
  · rw [run_concat, offers]
    have again :
        finish (wired riskManager attached)
            (step (wired riskManager attached)
              (run (step (wired riskManager attached)) initial calls)
              .drain).2 =
          finish (wired riskManager attached)
            (run (step (wired riskManager attached)) initial calls) :=
      finish_of_empty _ (contents_finish _ _)
    rw [again]
    exact eager.final
  · rw [outputs_concat, offers, ← eager.replies, enqueueReplies,
      List.filterMap_append]
    exact List.append_nil _
  · have total := eager.total
    rw [drainTotal] at total
    rw [outputs_concat, run_concat, drainTotal, List.filterMap_append,
      List.sum_append, total]
    exact (drainLoop_ordersDrained _ _ _).symm

/-- One more order. -/
theorem Eager.enqueue (eager : Eager riskManager attached initial calls)
    (request : OrderRequest)
    (room :
      (run (step (wired riskManager attached)) initial
        calls).pipeline.buffer.full = false) :
    Eager riskManager attached initial (calls ++ [.enqueue request]) := by
  have offers :
      (calls ++ [Call.enqueue request]).filterMap offered =
        calls.filterMap offered ++ [request] := by
    rw [List.filterMap_append]
    rfl
  have offer :=
    finish_enqueue riskManager eager.clean room request
  have served :=
    enqueue_alike eager.final (wired riskManager attached) request
  constructor
  · rw [run_concat]
    exact clean_enqueue eager.clean request
  · rw [run_concat, offers, run_concat]
    have cleanOffer :
        Clean attached
          (Pipeline.enqueue (wired riskManager attached)
            (finish (wired riskManager attached)
              (run (step (wired riskManager attached)) initial calls))
            request).2 :=
      clean_enqueue (clean_finish eager.clean) request
    exact offer.2.trans (finish_alike cleanOffer served.2)
  · rw [outputs_concat, offers, outputs_concat, ← eager.replies,
      enqueueReplies, List.filterMap_append]
    have answered := offer.1.trans served.1
    exact congrArg (fun accepted => _ ++ [accepted]) answered
  · have total := eager.total
    rw [drainTotal] at total
    rw [outputs_concat, run_concat, drainTotal, List.filterMap_append,
      List.sum_append, total]
    exact (enqueue_ordersDrained _ _ request).symm

end Runs

/-- A run that never overflows shows, once drained, what the eager run shows. -/
theorem eager_of_schedule
    {riskManager attached : Bool} (limits : RiskLimits) (journal : Bool)
    (calls : List Call)
    (scheduled : ∀ call ∈ calls, Scheduled call)
    (room :
      ∀ entry ∈
          events (step (wired riskManager attached))
            (fresh limits journal : System capacity) calls,
        HasRoom entry) :
    Eager riskManager attached (fresh limits journal : System capacity)
      calls := by
  induction calls using List.reverseRecOn with
  | nil =>
      exact
        { clean := fun _ => Synchronised.fresh limits journal
          final := by
            rw [run_nil, finish_of_empty _ RingBuffer.contents_fresh]
            exact .refl _
          replies := rfl
          total := rfl }
  | append_singleton calls last induction =>
      rw [List.forall_mem_append] at scheduled
      rw [events_concat, List.forall_mem_append] at room
      have eager := induction scheduled.1 room.1
      have permitted := scheduled.2 last (List.mem_singleton_self last)
      have hasRoom := room.2 _ (List.mem_singleton_self _)
      cases last with
      | drain => exact eager.drain
      | enqueue request =>
          exact eager.enqueue request (hasRoom (Option.some_ne_none _))
      | sendCancel request =>
          rcases permitted with contradictory | contradictory
          · cases contradictory
          · exact absurd rfl contradictory
      | sendAmend request =>
          rcases permitted with contradictory | contradictory
          · cases contradictory
          · exact absurd rfl contradictory

/-- Nothing is left to drain at the end of a schedule. -/
theorem finish_of_schedule
    {wiring : Wiring} {limits : RiskLimits} {journal : Bool}
    {requests : List OrderRequest} {calls : List Call}
    (schedule : Schedule capacity wiring limits journal requests calls) :
    finish wiring (runFresh wiring limits journal calls : System capacity) =
      runFresh wiring limits journal calls := by
  rcases List.getLast?_eq_some_iff.mp schedule.drains with ⟨earlier, rfl⟩
  apply finish_of_empty
  rw [runFresh, run_concat]
  exact contents_finish _ _

/--
When the buffer never overflows, the points at which it is drained cannot be
observed: two schedules of the same requests leave the same exchange, risk
manager, gateway, counters and records, the same reports on every order, and
they return the same values to the callers of `Enqueue` and the same total to
those of `Drain`.
-/
theorem run_schedule_unobservable
    (riskManager lifecycleTracker journal : Bool) (limits : RiskLimits)
    (requests : List OrderRequest) (first second : List Call)
    (firstSchedule :
      Schedule capacity (wired riskManager lifecycleTracker) limits journal
        requests first)
    (secondSchedule :
      Schedule capacity (wired riskManager lifecycleTracker) limits journal
        requests second) :
    let wiring := wired riskManager lifecycleTracker
    let initial : System capacity := fresh limits journal
    Alike (run (step wiring) initial first)
        (run (step wiring) initial second) ∧
      enqueueReplies (outputs (step wiring) initial first) =
        enqueueReplies (outputs (step wiring) initial second) ∧
      drainTotal (outputs (step wiring) initial first) =
        drainTotal (outputs (step wiring) initial second) := by
  intro wiring initial
  have firstEager :=
    eager_of_schedule limits journal first firstSchedule.scheduled
      firstSchedule.room
  have secondEager :=
    eager_of_schedule limits journal second secondSchedule.scheduled
      secondSchedule.room
  have final :
      Alike (run (step wiring) initial first)
        (run (step wiring) initial second) := by
    have firstFinal := firstEager.final
    have secondFinal := secondEager.final
    have firstDone := finish_of_schedule firstSchedule
    have secondDone := finish_of_schedule secondSchedule
    rw [runFresh] at firstDone secondDone
    rw [firstDone, firstSchedule.offers] at firstFinal
    rw [secondDone, secondSchedule.offers] at secondFinal
    exact firstFinal.trans secondFinal.symm
  refine ⟨final, ?_, ?_⟩
  · rw [firstEager.replies, secondEager.replies, firstSchedule.offers,
      secondSchedule.offers]
  · rw [firstEager.total, secondEager.total]
    have counts := congrArg OrderPipeline.ordersDrained final.counters
    exact counts

/-- Two orders, the second of which is too large. -/
def twoRequests : List OrderRequest :=
  [{ sequenceId := 1
     symbol := .ofView (text "AAPL")
     side := .buy
     price := 100.0
     quantity := 10 },
    { sequenceId := 2
      symbol := .ofView (text "AAPL")
      side := .sell
      price := 100.0
      quantity := 5000 }]

/-- Drain after all orders. -/
def batched : List Call :=
  twoRequests.map .enqueue ++ [.drain]

/-- Drain after every order. -/
def oneByOne : List Call :=
  twoRequests.flatMap fun request => [.enqueue request, .drain]

theorem run_schedule_unobservable_twoRequests :
    let initial : System 2 := fresh {} true
    Alike (run (step (wired true true)) initial batched)
        (run (step (wired true true)) initial oneByOne) ∧
      enqueueReplies (outputs (step (wired true true)) initial batched) =
        enqueueReplies
          (outputs (step (wired true true)) initial oneByOne) ∧
      drainTotal (outputs (step (wired true true)) initial batched) =
        drainTotal (outputs (step (wired true true)) initial oneByOne) :=
  run_schedule_unobservable true true true {} twoRequests batched oneByOne
    { offers := rfl
      scheduled := by decide
      room := by decide
      drains := rfl }
    { offers := rfl
      scheduled := by decide
      room := by decide
      drains := rfl }

end Llgw.DrainSchedule
