import Llgw.Lifecycle

/-!
# What a lifecycle call does

The transition table of the tracker as data, and for every method the exact
state it leaves behind: one legal transition with its counter and its report,
or a failure that changes the error state only.
-/

namespace Llgw.LifecycleMarks

open Llgw.Foundation.KeyedStore
open Llgw.Messages
open Llgw.Risk
open Llgw.Reports
open Llgw.Lifecycle

/-- The eleven `Mark*` methods with their reasons. -/
inductive Mark where
  | queued
  | riskRejected (reason : RiskRejectReason)
  | sent
  | exchangeAccepted
  | exchangeRejected (reason : OrderRejectReason)
  | cancelPending
  | cancelled
  | cancelRejected (reason : CancelRejectReason)
  | amendPending
  | amendAccepted
  | amendRejected (reason : AmendRejectReason)
deriving DecidableEq

namespace Mark

/-- The only state from which a mark is legal. -/
def source : Mark → OrderLifecycleState
  | .queued => .created
  | .riskRejected _ => .queued
  | .sent => .queued
  | .exchangeAccepted => .sent
  | .exchangeRejected _ => .sent
  | .cancelPending => .exchangeAccepted
  | .cancelled => .cancelPending
  | .cancelRejected _ => .cancelPending
  | .amendPending => .exchangeAccepted
  | .amendAccepted => .amendPending
  | .amendRejected _ => .amendPending

/-- The state a legal mark leads to. -/
def target : Mark → OrderLifecycleState
  | .queued => .queued
  | .riskRejected _ => .riskRejected
  | .sent => .sent
  | .exchangeAccepted => .exchangeAccepted
  | .exchangeRejected _ => .exchangeRejected
  | .cancelPending => .cancelPending
  | .cancelled => .cancelled
  | .cancelRejected _ => .exchangeAccepted
  | .amendPending => .amendPending
  | .amendAccepted => .exchangeAccepted
  | .amendRejected _ => .exchangeAccepted

/-- A rejection mark needs a reason other than `kNone`. -/
def reasonMissing : Mark → Bool
  | .riskRejected reason => reason == .none
  | .exchangeRejected reason => reason == .none
  | .cancelRejected reason => reason == .none
  | .amendRejected reason => reason == .none
  | _ => false

/-- The reason a mark leaves in the record. -/
def setReason : Mark → OrderLifecycleRecord → OrderLifecycleRecord
  | .riskRejected reason, record =>
      { record with riskRejectReason := reason }
  | .exchangeRejected reason, record =>
      { record with exchangeRejectReason := reason }
  | .cancelRejected reason, record =>
      { record with cancelRejectReason := reason }
  | .amendAccepted, record => { record with amendRejectReason := .none }
  | .amendRejected reason, record =>
      { record with amendRejectReason := reason }
  | _, record => record

/-- The counter a successful mark increments. -/
def count : Mark → LifecycleCounters → LifecycleCounters
  | .queued, counters =>
      { counters with ordersQueued := counters.ordersQueued + 1 }
  | .riskRejected _, counters =>
      { counters with
        ordersRiskRejected := counters.ordersRiskRejected + 1 }
  | .sent, counters =>
      { counters with ordersSent := counters.ordersSent + 1 }
  | .exchangeAccepted, counters =>
      { counters with
        ordersExchangeAccepted := counters.ordersExchangeAccepted + 1 }
  | .exchangeRejected _, counters =>
      { counters with
        ordersExchangeRejected := counters.ordersExchangeRejected + 1 }
  | .cancelPending, counters =>
      { counters with cancelRequests := counters.cancelRequests + 1 }
  | .cancelled, counters =>
      { counters with cancelsAccepted := counters.cancelsAccepted + 1 }
  | .cancelRejected _, counters =>
      { counters with cancelsRejected := counters.cancelsRejected + 1 }
  | .amendPending, counters =>
      { counters with amendRequests := counters.amendRequests + 1 }
  | .amendAccepted, counters =>
      { counters with amendsAccepted := counters.amendsAccepted + 1 }
  | .amendRejected _, counters =>
      { counters with amendsRejected := counters.amendsRejected + 1 }

/-- The type of the report of a successful mark. -/
def reportType : Mark → ExecutionReportType
  | .queued => .queued
  | .riskRejected _ => .riskRejected
  | .sent => .sent
  | .exchangeAccepted => .exchangeAccepted
  | .exchangeRejected _ => .exchangeRejected
  | .cancelPending => .cancelPending
  | .cancelled => .cancelled
  | .cancelRejected _ => .cancelRejected
  | .amendPending => .amendPending
  | .amendAccepted => .amendAccepted
  | .amendRejected _ => .amendRejected

/-- The rejection source of the report of a successful mark. -/
def rejectSource : Mark → ExecutionRejectSource
  | .riskRejected _ => .risk
  | .exchangeRejected _ => .exchange
  | .cancelRejected _ => .cancel
  | .amendRejected _ => .amend
  | _ => .none

/-- The reason string of the report of a successful mark. -/
def rejectReason : Mark → ByteString
  | .riskRejected reason => reason.toString
  | .exchangeRejected reason => orderReasonString reason
  | .cancelRejected reason => cancelReasonString reason
  | .amendRejected reason => amendReasonString reason
  | _ => text "none"

/-- Append the report of a successful mark. -/
def report (mark : Mark) (sequenceId : UInt64)
    (journal : ExecutionReportJournal) : ExecutionReportJournal :=
  journal.record sequenceId mark.reportType mark.rejectSource
    mark.rejectReason

/-- The record a legal mark leaves behind. -/
def moved (mark : Mark) (record : OrderLifecycleRecord) :
    OrderLifecycleRecord :=
  mark.setReason { record with state := mark.target }

@[simp]
theorem moved_state (mark : Mark) (record : OrderLifecycleRecord) :
    (mark.moved record).state = mark.target := by
  cases mark <;> rfl

end Mark

/-- Call the `Mark*` method that a mark names. -/
def applyMark (tracker : OrderLifecycleTracker) (sequenceId : UInt64) :
    Mark → Bool × OrderLifecycleTracker
  | .queued => tracker.markQueued sequenceId
  | .riskRejected reason => tracker.markRiskRejected sequenceId reason
  | .sent => tracker.markSent sequenceId
  | .exchangeAccepted => tracker.markExchangeAccepted sequenceId
  | .exchangeRejected reason =>
      tracker.markExchangeRejected sequenceId reason
  | .cancelPending => tracker.markCancelPending sequenceId
  | .cancelled => tracker.markCancelled sequenceId
  | .cancelRejected reason => tracker.markCancelRejected sequenceId reason
  | .amendPending => tracker.markAmendPending sequenceId
  | .amendAccepted => tracker.markAmendAccepted sequenceId
  | .amendRejected reason => tracker.markAmendRejected sequenceId reason

/-- The public calls that change a tracker. -/
inductive TrackerCall where
  | registerCreated (sequenceId : UInt64)
  | registerQueued (sequenceId : UInt64)
  | mark (sequenceId : UInt64) (mark : Mark)
deriving DecidableEq

/-- One public call on a tracker. -/
def trackerStep (tracker : OrderLifecycleTracker) :
    TrackerCall → Bool × OrderLifecycleTracker
  | .registerCreated sequenceId => tracker.registerCreated sequenceId
  | .registerQueued sequenceId => tracker.registerQueued sequenceId
  | .mark sequenceId mark => applyMark tracker sequenceId mark

/-- A new tracker, with the journal that it is given or without one. -/
def newTracker (journal : Option ExecutionReportJournal) :
    OrderLifecycleTracker where
  executionReports := journal

/-- Every method is `mark` at the values of the transition table. -/
theorem applyMark_eq_mark
    (tracker : OrderLifecycleTracker) (sequenceId : UInt64) (mark : Mark) :
    applyMark tracker sequenceId mark =
      if mark.reasonMissing then tracker.fail .invalidTransition
      else
        tracker.mark sequenceId mark.source mark.target mark.setReason
          mark.count (mark.report sequenceId) := by
  cases mark with
  | riskRejected reason => cases reason <;> rfl
  | exchangeRejected reason => cases reason <;> rfl
  | cancelRejected reason => cases reason <;> rfl
  | amendRejected reason => cases reason <;> rfl
  | _ => rfl

/-- The tracker after a successful mark of an order with this record. -/
def marked (tracker : OrderLifecycleTracker) (sequenceId : UInt64)
    (record : OrderLifecycleRecord) (mark : Mark) : OrderLifecycleTracker :=
  { tracker with
    executionReports := tracker.executionReports.map (mark.report sequenceId)
    records := tracker.records.insert sequenceId (mark.moved record)
    counters := mark.count tracker.counters
    lastError := .none }

/-- The tracker after two successful marks of one order in a row. -/
def completed (tracker : OrderLifecycleTracker) (sequenceId : UInt64)
    (record : OrderLifecycleRecord) (first second : Mark) :
    OrderLifecycleTracker :=
  marked (marked tracker sequenceId record first) sequenceId
    (first.moved record) second

/-- The tracker after a successful registration. -/
def registered (tracker : OrderLifecycleTracker) (sequenceId : UInt64) :
    OrderLifecycleTracker :=
  { tracker with
    executionReports :=
      tracker.executionReports.map fun journal =>
        journal.recordState sequenceId .created
    records :=
      tracker.records.insert sequenceId { sequenceId := sequenceId }
    counters :=
      { tracker.counters with
        ordersRegistered := tracker.counters.ordersRegistered + 1 }
    lastError := .none }

/-- The tracker after a failure: only the error state differs. -/
def failed (tracker : OrderLifecycleTracker) (error : LifecycleError) :
    OrderLifecycleTracker :=
  (tracker.fail error).2

@[simp]
theorem fail_eq (tracker : OrderLifecycleTracker) (error : LifecycleError) :
    tracker.fail error = (false, failed tracker error) := rfl

@[simp]
theorem failed_records
    (tracker : OrderLifecycleTracker) (error : LifecycleError) :
    (failed tracker error).records = tracker.records := rfl

@[simp]
theorem failed_executionReports
    (tracker : OrderLifecycleTracker) (error : LifecycleError) :
    (failed tracker error).executionReports =
      tracker.executionReports := rfl

@[simp]
theorem failed_counters
    (tracker : OrderLifecycleTracker) (error : LifecycleError) :
    (failed tracker error).counters = tracker.counters := rfl

@[simp]
theorem failed_transitionErrors
    (tracker : OrderLifecycleTracker) (error : LifecycleError) :
    (failed tracker error).errors.transitionErrors =
      tracker.errors.transitionErrors + 1 := by
  cases error <;> rfl

theorem failed_duplicateOrderErrors
    (tracker : OrderLifecycleTracker) {error : LifecycleError}
    (other : error ≠ .duplicateOrder) :
    (failed tracker error).errors.duplicateOrderErrors =
      tracker.errors.duplicateOrderErrors := by
  cases error with
  | duplicateOrder => contradiction
  | _ => rfl

/-! ## Success and failure of a single call -/

section Calls

variable {tracker : OrderLifecycleTracker} {sequenceId : UInt64}
  {record : OrderLifecycleRecord} {mark : Mark}

/-- A mark is legal on a record in its source state, given a reason. -/
structure Legal (tracker : OrderLifecycleTracker) (sequenceId : UInt64)
    (record : OrderLifecycleRecord) (mark : Mark) : Prop where
  found : tracker.records.lookup sequenceId = some record
  state : record.state = mark.source
  reason : mark.reasonMissing = false

theorem applyMark_of_legal (legal : Legal tracker sequenceId record mark) :
    applyMark tracker sequenceId mark =
      (true, marked tracker sequenceId record mark) := by
  have moves :
      tracker.transition sequenceId mark.source mark.target =
        (true,
          { tracker with
            records :=
              tracker.records.insert sequenceId
                { record with state := mark.target }
            lastError := .none }) := by
    simp [OrderLifecycleTracker.transition, legal.found, legal.state]
  rw [applyMark_eq_mark, legal.reason, if_neg Bool.false_ne_true]
  simp only [OrderLifecycleTracker.mark, moves, Bool.not_true,
    Bool.false_eq_true, if_false, modify_insert_self]
  rfl

theorem applyMark_of_unknown
    (reason : mark.reasonMissing = false)
    (absent : tracker.records.lookup sequenceId = none) :
    applyMark tracker sequenceId mark =
      (false, failed tracker .unknownOrder) := by
  rw [applyMark_eq_mark, reason, if_neg Bool.false_ne_true]
  simp [OrderLifecycleTracker.mark, OrderLifecycleTracker.transition, absent]

theorem applyMark_of_wrong_state
    (found : tracker.records.lookup sequenceId = some record)
    (state : record.state ≠ mark.source) :
    applyMark tracker sequenceId mark =
      (false, failed tracker .invalidTransition) := by
  rw [applyMark_eq_mark]
  split_ifs with reason
  · rfl
  · simp [OrderLifecycleTracker.mark, OrderLifecycleTracker.transition,
      found, state]

theorem applyMark_of_reasonMissing (reason : mark.reasonMissing = true) :
    applyMark tracker sequenceId mark =
      (false, failed tracker .invalidTransition) := by
  rw [applyMark_eq_mark, reason, if_pos rfl, fail_eq]

/-- A mark makes one legal transition or fails without touching a record. -/
theorem applyMark_cases
    (tracker : OrderLifecycleTracker) (sequenceId : UInt64) (mark : Mark) :
    (∃ record, Legal tracker sequenceId record mark ∧
      applyMark tracker sequenceId mark =
        (true, marked tracker sequenceId record mark)) ∨
    ((∀ record, ¬ Legal tracker sequenceId record mark) ∧
      ∃ error, error ≠ LifecycleError.none ∧
        error ≠ LifecycleError.duplicateOrder ∧
        applyMark tracker sequenceId mark =
          (false, failed tracker error)) := by
  by_cases reason : mark.reasonMissing = true
  · refine Or.inr ⟨fun record legal => ?_, .invalidTransition, by decide,
      by decide, applyMark_of_reasonMissing reason⟩
    rw [legal.reason] at reason
    contradiction
  · have given : mark.reasonMissing = false := by simpa using reason
    cases found : tracker.records.lookup sequenceId with
    | none =>
        refine Or.inr ⟨fun record legal => ?_, .unknownOrder, by decide,
          by decide, applyMark_of_unknown given found⟩
        have present := legal.found
        rw [found] at present
        contradiction
    | some record =>
        by_cases state : record.state = mark.source
        · have legal : Legal tracker sequenceId record mark :=
            ⟨found, state, given⟩
          exact Or.inl ⟨record, legal, applyMark_of_legal legal⟩
        · refine Or.inr ⟨fun other legal => ?_, .invalidTransition,
            by decide, by decide, applyMark_of_wrong_state found state⟩
          have same : record = other := by
            have present := legal.found
            rw [found] at present
            exact Option.some.inj present
          subst same
          exact state legal.state

theorem registerCreated_of_unknown
    (absent : sequenceId ∉ tracker.records) :
    tracker.registerCreated sequenceId =
      (true, registered tracker sequenceId) := by
  simp [OrderLifecycleTracker.registerCreated,
    emplace_of_notMem absent, registered]

theorem registerCreated_of_known
    (present : sequenceId ∈ tracker.records) :
    tracker.registerCreated sequenceId =
      (false, failed tracker .duplicateOrder) := by
  simp [OrderLifecycleTracker.registerCreated, emplace_of_mem present]

/-- A fresh registration is always in the source state of `MarkQueued`. -/
theorem legal_queued_registered
    (tracker : OrderLifecycleTracker) (sequenceId : UInt64) :
    Legal (registered tracker sequenceId) sequenceId
      { sequenceId := sequenceId } .queued where
  found := Finmap.lookup_insert _
  state := rfl
  reason := rfl

/-- The tracker after a successful `RegisterQueued`. -/
def enqueued (tracker : OrderLifecycleTracker) (sequenceId : UInt64) :
    OrderLifecycleTracker :=
  marked (registered tracker sequenceId) sequenceId
    { sequenceId := sequenceId } .queued

theorem registerQueued_of_unknown
    (absent : sequenceId ∉ tracker.records) :
    tracker.registerQueued sequenceId =
      (true, enqueued tracker sequenceId) := by
  have queued :
      (registered tracker sequenceId).markQueued sequenceId =
        (true, enqueued tracker sequenceId) :=
    applyMark_of_legal (legal_queued_registered tracker sequenceId)
  simp [OrderLifecycleTracker.registerQueued,
    registerCreated_of_unknown absent, queued]

theorem registerQueued_of_known
    (present : sequenceId ∈ tracker.records) :
    tracker.registerQueued sequenceId =
      (false, failed tracker .duplicateOrder) := by
  simp [OrderLifecycleTracker.registerQueued,
    registerCreated_of_known present]

@[simp]
theorem contains_iff :
    tracker.contains sequenceId = true ↔ sequenceId ∈ tracker.records := by
  simp [OrderLifecycleTracker.contains]

end Calls

/-! ## States and membership after a call -/

section States

variable (tracker : OrderLifecycleTracker) (sequenceId other : UInt64)
  (record : OrderLifecycleRecord) (mark : Mark)

theorem stateOf_eq_none_iff :
    tracker.stateOf sequenceId = none ↔ sequenceId ∉ tracker.records := by
  rw [OrderLifecycleTracker.stateOf, Option.map_eq_none_iff]
  exact Finmap.lookup_eq_none

theorem stateOf_eq_some_iff {state : OrderLifecycleState} :
    tracker.stateOf sequenceId = some state ↔
      ∃ record, tracker.records.lookup sequenceId = some record ∧
        record.state = state := by
  simp [OrderLifecycleTracker.stateOf, OrderLifecycleTracker.find]

@[simp]
theorem stateOf_failed (error : LifecycleError) :
    (failed tracker error).stateOf sequenceId =
      tracker.stateOf sequenceId := rfl

theorem stateOf_marked :
    (marked tracker sequenceId record mark).stateOf =
      Function.update tracker.stateOf sequenceId (some mark.target) := by
  ext1 candidate
  simp only [OrderLifecycleTracker.stateOf, OrderLifecycleTracker.find,
    marked, lookup_insert_eq_ite, Function.update_apply]
  split_ifs <;> simp

theorem stateOf_registered :
    (registered tracker sequenceId).stateOf =
      Function.update tracker.stateOf sequenceId (some .created) := by
  ext1 candidate
  simp only [OrderLifecycleTracker.stateOf, OrderLifecycleTracker.find,
    registered, lookup_insert_eq_ite, Function.update_apply]
  split_ifs <;> rfl

theorem stateOf_enqueued :
    (enqueued tracker sequenceId).stateOf =
      Function.update tracker.stateOf sequenceId (some .queued) := by
  rw [enqueued, stateOf_marked, stateOf_registered, Function.update_idem]
  rfl

theorem stateOf_completed (first second : Mark) :
    (completed tracker sequenceId record first second).stateOf =
      Function.update tracker.stateOf sequenceId (some second.target) := by
  rw [completed, stateOf_marked, stateOf_marked, Function.update_idem]

theorem mem_marked_records :
    other ∈ (marked tracker sequenceId record mark).records ↔
      other = sequenceId ∨ other ∈ tracker.records :=
  Finmap.mem_insert

/-- Two marks of an order that has a record add no record. -/
theorem mem_completed_records {first second : Mark}
    (found : tracker.records.lookup sequenceId = some record) :
    other ∈ (completed tracker sequenceId record first second).records ↔
      other ∈ tracker.records := by
  rw [completed, mem_marked_records, mem_marked_records]
  refine ⟨?_, fun old => Or.inr (Or.inr old)⟩
  rintro (rfl | rfl | old)
  · exact Finmap.mem_of_lookup_eq_some found
  · exact Finmap.mem_of_lookup_eq_some found
  · exact old

/-- A mark of one order does not touch the state of another. -/
theorem stateOf_applyMark_of_ne (different : other ≠ sequenceId) :
    (applyMark tracker sequenceId mark).2.stateOf other =
      tracker.stateOf other := by
  rcases applyMark_cases tracker sequenceId mark with
    ⟨record, _, result⟩ | ⟨_, error, _, _, result⟩
  · rw [result, stateOf_marked, Function.update_of_ne different]
  · rw [result, stateOf_failed]

/-- A mark never adds or removes a record. -/
theorem mem_applyMark_records :
    other ∈ (applyMark tracker sequenceId mark).2.records ↔
      other ∈ tracker.records := by
  rcases applyMark_cases tracker sequenceId mark with
    ⟨record, legal, result⟩ | ⟨_, error, _, _, result⟩
  · rw [result, mem_marked_records]
    refine ⟨?_, Or.inr⟩
    rintro (rfl | old)
    · exact Finmap.mem_of_lookup_eq_some legal.found
    · exact old
  · rw [result, failed_records]

/-- `MarkSent` succeeds exactly on a queued order, and leaves it sent. -/
theorem applyMark_sent_iff :
    ((applyMark tracker sequenceId .sent).1 = true ∧
        (applyMark tracker sequenceId .sent).2.stateOf sequenceId =
          some .sent) ↔
      tracker.stateOf sequenceId = some .queued := by
  rw [stateOf_eq_some_iff tracker sequenceId]
  constructor
  · rintro ⟨succeeded, _⟩
    rcases applyMark_cases tracker sequenceId .sent with
      ⟨record, legal, _⟩ | ⟨_, error, _, _, result⟩
    · exact ⟨record, legal.found, legal.state⟩
    · rw [result] at succeeded
      contradiction
  · rintro ⟨record, found, state⟩
    have legal : Legal tracker sequenceId record .sent :=
      ⟨found, state, rfl⟩
    rw [applyMark_of_legal legal, stateOf_marked, Function.update_self]
    exact ⟨rfl, rfl⟩

theorem mem_enqueued_records :
    other ∈ (enqueued tracker sequenceId).records ↔
      other = sequenceId ∨ other ∈ tracker.records := by
  simp [enqueued, marked, registered, Finmap.mem_insert]

end States

/-! ## Public calls -/

section Preservation

variable (Invariant : OrderLifecycleTracker → Prop)
  (failed :
    ∀ tracker error, Invariant tracker → Invariant (failed tracker error))
  (registered :
    ∀ tracker sequenceId, sequenceId ∉ tracker.records →
      Invariant tracker → Invariant (registered tracker sequenceId))
  (marked :
    ∀ tracker sequenceId record mark,
      Legal tracker sequenceId record mark →
        Invariant tracker →
          Invariant (marked tracker sequenceId record mark))
include failed registered marked

/--
The step rule of a tracker: what failures, registrations and legal marks
preserve, every public call preserves.
-/
theorem trackerStep_preserves
    (tracker : OrderLifecycleTracker) (call : TrackerCall)
    (start : Invariant tracker) :
    Invariant (trackerStep tracker call).2 := by
  cases call with
  | registerCreated sequenceId =>
      rw [trackerStep]
      by_cases known : sequenceId ∈ tracker.records
      · rw [registerCreated_of_known known]
        exact failed tracker .duplicateOrder start
      · rw [registerCreated_of_unknown known]
        exact registered tracker sequenceId known start
  | registerQueued sequenceId =>
      rw [trackerStep]
      by_cases known : sequenceId ∈ tracker.records
      · rw [registerQueued_of_known known]
        exact failed tracker .duplicateOrder start
      · rw [registerQueued_of_unknown known]
        exact
          marked _ _ _ _ (legal_queued_registered tracker sequenceId)
            (registered _ _ known start)
  | mark sequenceId mark =>
      rw [trackerStep]
      rcases applyMark_cases tracker sequenceId mark with
        ⟨record, legal, result⟩ | ⟨_, error, _, _, result⟩
      · rw [result]
        exact marked _ _ _ _ legal start
      · rw [result]
        exact failed tracker error start

end Preservation

/-- No public call forgets a record. -/
theorem mem_trackerStep_records
    (tracker : OrderLifecycleTracker) (call : TrackerCall)
    {sequenceId : UInt64} (known : sequenceId ∈ tracker.records) :
    sequenceId ∈ (trackerStep tracker call).2.records := by
  refine
    trackerStep_preserves (fun later => sequenceId ∈ later.records)
      ?_ ?_ ?_ tracker call known
  · intro later error kept
    exact kept
  · intro later other _ kept
    exact Finmap.mem_insert.mpr (Or.inr kept)
  · intro later other record mark _ kept
    exact Finmap.mem_insert.mpr (Or.inr kept)

end Llgw.LifecycleMarks
