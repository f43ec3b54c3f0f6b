import Llgw.LifecycleMarks

/-!
# Tracker updates up to the interleaving of orders

A successful call writes one record, steps the counters and reports on one
order.  What a tracker shows of each order by itself does not depend on how
the calls for different orders are interleaved: updates of different orders
commute, although the journals they leave differ in their event indexes.
-/

namespace Llgw.LifecycleUpdates

open Llgw.Foundation.KeyedStore
open Llgw.Messages
open Llgw.Reports
open Llgw.Lifecycle
open Llgw.LifecycleMarks

/-- What a report says, apart from its place in the journal. -/
structure ReportBody where
  type : ExecutionReportType
  rejectSource : ExecutionRejectSource
  rejectReason : ByteString
deriving DecidableEq

/-- The body of a report. -/
def reportBody (report : ExecutionReport) : ReportBody where
  type := report.type
  rejectSource := report.rejectSource
  rejectReason := report.rejectReason

/-- The bodies of the reports on an order, oldest first. -/
def journalBodies (journal : ExecutionReportJournal)
    (sequenceId : UInt64) : List ReportBody :=
  (journal.reportsFor sequenceId).map reportBody

/-- The body of the report of a successful mark. -/
def markBody (mark : Mark) : ReportBody where
  type := mark.reportType
  rejectSource := mark.rejectSource
  rejectReason := mark.rejectReason

/-- What a tracker has reported on an order, if it reports at all. -/
def bodiesFor (tracker : OrderLifecycleTracker) (sequenceId : UInt64) :
    Option (List ReportBody) :=
  tracker.executionReports.map fun journal =>
    journalBodies journal sequenceId

theorem journalBodies_record
    (journal : ExecutionReportJournal) (sequenceId : UInt64)
    (body : ReportBody) :
    journalBodies
        (journal.record sequenceId body.type body.rejectSource
          body.rejectReason) =
      Function.update (journalBodies journal) sequenceId
        (journalBodies journal sequenceId ++ [body]) := by
  ext1 other
  by_cases same : other = sequenceId
  · subst same
    rw [Function.update_self, journalBodies,
      ExecutionReportJournal.reportsFor_record_self, List.map_append]
    rfl
  · rw [Function.update_of_ne same, journalBodies,
      ExecutionReportJournal.reportsFor_record_of_ne journal same]
    rfl

/-! ## Updates -/

/-- The record, the counting and the reports of successful calls. -/
structure Update where
  record : OrderLifecycleRecord
  count : LifecycleCounters → LifecycleCounters
  bodies : List ReportBody

/-- The update that consists of one update and another after it. -/
def Update.andThen (first second : Update) : Update where
  record := second.record
  count := second.count ∘ first.count
  bodies := first.bodies ++ second.bodies

/-- A tracker has been updated for one order and for no other. -/
structure Updated (tracker : OrderLifecycleTracker) (sequenceId : UInt64)
    (update : Update) (next : OrderLifecycleTracker) : Prop where
  records : next.records = tracker.records.insert sequenceId update.record
  counters : next.counters = update.count tracker.counters
  errors : next.errors = tracker.errors
  lastError : next.lastError = .none
  bodies :
    bodiesFor next =
      Function.update (bodiesFor tracker) sequenceId
        ((bodiesFor tracker sequenceId).map (· ++ update.bodies))

/-- Reports through a pointer that may be null. -/
theorem bodiesFor_record
    (tracker next : OrderLifecycleTracker) (sequenceId : UInt64)
    (body : ReportBody)
    (reported :
      next.executionReports =
        tracker.executionReports.map fun journal =>
          journal.record sequenceId body.type body.rejectSource
            body.rejectReason) :
    bodiesFor next =
      Function.update (bodiesFor tracker) sequenceId
        ((bodiesFor tracker sequenceId).map (· ++ [body])) := by
  ext1 other
  rw [bodiesFor, reported]
  cases attached : tracker.executionReports with
  | none =>
      by_cases same : other = sequenceId
      · subst same
        rw [Function.update_self, bodiesFor, attached]
        rfl
      · rw [Function.update_of_ne same, bodiesFor, attached]
        rfl
  | some journal =>
      simp only [Option.map_some, journalBodies_record]
      by_cases same : other = sequenceId
      · subst same
        rw [Function.update_self, Function.update_self, bodiesFor,
          attached]
        rfl
      · rw [Function.update_of_ne same, Function.update_of_ne same,
          bodiesFor, attached]
        rfl

/-- The update of a successful mark. -/
def markUpdate (record : OrderLifecycleRecord) (mark : Mark) : Update where
  record := mark.moved record
  count := mark.count
  bodies :=
    [{ type := mark.reportType
       rejectSource := mark.rejectSource
       rejectReason := mark.rejectReason }]

/-- The update of a successful registration. -/
def registerUpdate (sequenceId : UInt64) : Update where
  record := { sequenceId := sequenceId }
  count counters :=
    { counters with ordersRegistered := counters.ordersRegistered + 1 }
  bodies :=
    [{ type := .created
       rejectSource := .none
       rejectReason := text "none" }]

theorem marked_updated
    (tracker : OrderLifecycleTracker) (sequenceId : UInt64)
    (record : OrderLifecycleRecord) (mark : Mark) :
    Updated tracker sequenceId (markUpdate record mark)
      (marked tracker sequenceId record mark) where
  records := rfl
  counters := rfl
  errors := rfl
  lastError := rfl
  bodies := bodiesFor_record _ _ _ _ rfl

theorem registered_updated
    (tracker : OrderLifecycleTracker) (sequenceId : UInt64) :
    Updated tracker sequenceId (registerUpdate sequenceId)
      (registered tracker sequenceId) where
  records := rfl
  counters := rfl
  errors := rfl
  lastError := rfl
  bodies := bodiesFor_record _ _ _ _ rfl

theorem Updated.trans
    {tracker middle next : OrderLifecycleTracker} {sequenceId : UInt64}
    {first second : Update}
    (start : Updated tracker sequenceId first middle)
    (finish : Updated middle sequenceId second next) :
    Updated tracker sequenceId (first.andThen second) next where
  records := by
    rw [finish.records, start.records, Finmap.insert_insert]
    rfl
  counters := by
    rw [finish.counters, start.counters]
    rfl
  errors := finish.errors.trans start.errors
  lastError := finish.lastError
  bodies := by
    rw [finish.bodies, start.bodies, Function.update_self,
      Function.update_idem, Option.map_map]
    congr 2
    ext1 bodies
    exact List.append_assoc _ _ _

theorem enqueued_updated
    (tracker : OrderLifecycleTracker) (sequenceId : UInt64) :
    Updated tracker sequenceId
      ((registerUpdate sequenceId).andThen
        (markUpdate { sequenceId := sequenceId } .queued))
      (enqueued tracker sequenceId) :=
  (registered_updated _ _).trans (marked_updated _ _ _ _)

theorem completed_updated
    (tracker : OrderLifecycleTracker) (sequenceId : UInt64)
    (record : OrderLifecycleRecord) (first second : Mark) :
    Updated tracker sequenceId
      ((markUpdate record first).andThen
        (markUpdate (first.moved record) second))
      (completed tracker sequenceId record first second) :=
  (marked_updated _ _ _ _).trans (marked_updated _ _ _ _)

/-! ## Trackers that show the same -/

/-- Two trackers differ at most in the interleaving of their journals. -/
structure SameTracker (left right : OrderLifecycleTracker) : Prop where
  records : left.records = right.records
  counters : left.counters = right.counters
  errors : left.errors = right.errors
  lastError : left.lastError = right.lastError
  bodies : bodiesFor left = bodiesFor right

namespace SameTracker

variable {left middle right : OrderLifecycleTracker}

theorem refl (tracker : OrderLifecycleTracker) :
    SameTracker tracker tracker :=
  ⟨rfl, rfl, rfl, rfl, rfl⟩

theorem symm (same : SameTracker left right) : SameTracker right left :=
  ⟨same.records.symm, same.counters.symm, same.errors.symm,
    same.lastError.symm, same.bodies.symm⟩

theorem trans (first : SameTracker left middle)
    (second : SameTracker middle right) : SameTracker left right :=
  ⟨first.records.trans second.records,
    first.counters.trans second.counters,
    first.errors.trans second.errors,
    first.lastError.trans second.lastError,
    first.bodies.trans second.bodies⟩

/-- Equal updates of equal trackers. -/
theorem updated {left' right' : OrderLifecycleTracker}
    {sequenceId : UInt64} {update : Update}
    (same : SameTracker left right)
    (leftUpdated : Updated left sequenceId update left')
    (rightUpdated : Updated right sequenceId update right') :
    SameTracker left' right' where
  records := by
    rw [leftUpdated.records, rightUpdated.records, same.records]
  counters := by
    rw [leftUpdated.counters, rightUpdated.counters, same.counters]
  errors := by
    rw [leftUpdated.errors, rightUpdated.errors, same.errors]
  lastError := leftUpdated.lastError.trans rightUpdated.lastError.symm
  bodies := by
    rw [leftUpdated.bodies, rightUpdated.bodies, same.bodies]

end SameTracker

/-- Updates of different orders commute when their counting does. -/
theorem Updated.commute
    {tracker left right leftRight rightLeft : OrderLifecycleTracker}
    {leftId rightId : UInt64} {leftUpdate rightUpdate : Update}
    (different : leftId ≠ rightId)
    (counts : Function.Commute leftUpdate.count rightUpdate.count)
    (first : Updated tracker leftId leftUpdate left)
    (firstSecond : Updated left rightId rightUpdate leftRight)
    (second : Updated tracker rightId rightUpdate right)
    (secondFirst : Updated right leftId leftUpdate rightLeft) :
    SameTracker leftRight rightLeft where
  records := by
    rw [firstSecond.records, first.records, secondFirst.records,
      second.records]
    exact Finmap.insert_insert_of_ne _ different
  counters := by
    rw [firstSecond.counters, first.counters, secondFirst.counters,
      second.counters]
    exact (counts tracker.counters).symm
  errors := by
    rw [firstSecond.errors, first.errors, secondFirst.errors,
      second.errors]
  lastError := firstSecond.lastError.trans secondFirst.lastError.symm
  bodies := by
    rw [firstSecond.bodies, first.bodies, secondFirst.bodies,
      second.bodies, Function.update_of_ne different.symm,
      Function.update_of_ne different,
      Function.update_comm different]

/-! ## Counting commutes -/

theorem count_commute (first second : Mark) :
    Function.Commute first.count second.count := by
  intro counters
  cases first <;> cases second <;> rfl

theorem registerCount_commute (sequenceId : UInt64) (mark : Mark) :
    Function.Commute (registerUpdate sequenceId).count mark.count := by
  intro counters
  cases mark <;> rfl

/-- A registration in the queue commutes with every mark. -/
theorem enqueuedCount_commute (sequenceId : UInt64) (mark : Mark) :
    Function.Commute
      ((registerUpdate sequenceId).andThen
        (markUpdate { sequenceId := sequenceId } .queued)).count
      mark.count :=
  (count_commute .queued mark).comp_left
    (registerCount_commute sequenceId mark)

end Llgw.LifecycleUpdates
