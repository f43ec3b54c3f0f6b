import Llgw.Foundation.TransitionRun
import Llgw.LifecycleUpdates

/-!
# Atomicity of the tracker's calls

A public call on a tracker either fails, and then touches the error state
only, or succeeds, and then makes one legal transition of one order and
reports it.  A failure is counted in the class that `last_error` names.
-/

namespace Llgw.MutatorErrors

open Llgw.Foundation.KeyedStore
open Llgw.Foundation.TransitionRun
open Llgw.Messages
open Llgw.Reports
open Llgw.Lifecycle
open Llgw.LifecycleMarks
open Llgw.LifecycleUpdates

/-! ## What a call is about -/

/-- The order that a call names. -/
def orderOf : TrackerCall → UInt64
  | .registerCreated sequenceId => sequenceId
  | .registerQueued sequenceId => sequenceId
  | .mark sequenceId _ => sequenceId

/-- The calls that create a record. -/
def registers : TrackerCall → Bool
  | .registerCreated _ => true
  | .registerQueued _ => true
  | .mark _ _ => false

/-- The body of the report of a registration. -/
def createdBody : ReportBody where
  type := .created
  rejectSource := .none
  rejectReason := text "none"

/-- The bodies of the reports of a successful call. -/
def callBodies : TrackerCall → List ReportBody
  | .registerCreated _ => [createdBody]
  | .registerQueued _ => [createdBody, markBody .queued]
  | .mark _ mark => [markBody mark]

/-- Consecutive reports on one order, given the index of the first. -/
def stamped (sequenceId : UInt64) :
    UInt64 → List ReportBody → List ExecutionReport
  | _, [] => []
  | index, body :: rest =>
      { eventIndex := index
        sequenceId := sequenceId
        type := body.type
        rejectSource := body.rejectSource
        rejectReason := body.rejectReason } ::
        stamped sequenceId (index + 1) rest

/-- The counter of failures of one class. -/
def classCount : LifecycleError → LifecycleErrors → Nat
  | .duplicateOrder, errors => errors.duplicateOrderErrors
  | .unknownOrder, errors => errors.unknownOrderErrors
  | .invalidTransition, errors => errors.invalidTransitionErrors
  | .none, _ => 0

/-! ## The two outcomes -/

/-- A mark that lacks its reason or meets a record in another state. -/
def Misplaced (tracker : OrderLifecycleTracker) : TrackerCall → Prop
  | .registerCreated _ => False
  | .registerQueued _ => False
  | .mark sequenceId mark =>
      mark.reasonMissing = true ∨
        ∃ record, tracker.records.lookup sequenceId = some record ∧
          record.state ≠ mark.source

/-- What a failing call does: it counts one error of one class. -/
structure Refused (tracker : OrderLifecycleTracker) (call : TrackerCall)
    (next : OrderLifecycleTracker) : Prop where
  records : next.records = tracker.records
  counters : next.counters = tracker.counters
  executionReports : next.executionReports = tracker.executionReports
  transitionErrors :
    next.errors.transitionErrors = tracker.errors.transitionErrors + 1
  named : next.lastError ≠ .none
  counted :
    classCount next.lastError next.errors =
      classCount next.lastError tracker.errors + 1
  others :
    ∀ other, other ≠ next.lastError →
      classCount other next.errors = classCount other tracker.errors
  duplicate : next.lastError = .duplicateOrder ↔ registers call = true
  known : registers call = true → orderOf call ∈ tracker.records
  invalid : next.lastError = .invalidTransition ↔ Misplaced tracker call
  unknown :
    next.lastError = .unknownOrder ↔
      registers call = false ∧ ¬ Misplaced tracker call
  absent :
    next.lastError = .unknownOrder → orderOf call ∉ tracker.records

/-- One legal transition of the record of an order. -/
inductive Moves :
    TrackerCall → Option OrderLifecycleRecord →
      Option OrderLifecycleRecord → Prop where
  | created (sequenceId : UInt64) :
      Moves (.registerCreated sequenceId) none
        (some { sequenceId := sequenceId, state := .created })
  | queued (sequenceId : UInt64) :
      Moves (.registerQueued sequenceId) none
        (some { sequenceId := sequenceId, state := .queued })
  | marked (sequenceId : UInt64) (mark : Mark)
      (record : OrderLifecycleRecord)
      (source : record.state = mark.source)
      (reason : mark.reasonMissing = false) :
      Moves (.mark sequenceId mark) (some record)
        (some (mark.moved record))

/-- What a successful call does: one transition of one order, reported. -/
structure Carried (tracker : OrderLifecycleTracker) (call : TrackerCall)
    (next : OrderLifecycleTracker) : Prop where
  errors : next.errors = tracker.errors
  lastError : next.lastError = .none
  frame :
    ∀ other, other ≠ orderOf call →
      next.records.lookup other = tracker.records.lookup other
  transition :
    Moves call (tracker.records.lookup (orderOf call))
      (next.records.lookup (orderOf call))
  reports :
    next.executionReports.map ExecutionReportJournal.reports =
      tracker.executionReports.map fun journal =>
        journal.reports ++
          stamped (orderOf call) journal.nextEventIndex (callBodies call)

/-! ## Failures -/

section Failures

variable (tracker : OrderLifecycleTracker)

theorem failed_lastError (error : LifecycleError) :
    (failed tracker error).lastError = error := rfl

/-- A failure is counted in its own class and in no other. -/
theorem failed_classCount {error : LifecycleError} (named : error ≠ .none)
    (other : LifecycleError) :
    classCount other (failed tracker error).errors =
      classCount other tracker.errors + if other = error then 1 else 0 := by
  cases error with
  | none => contradiction
  | duplicateOrder => cases other <;> rfl
  | unknownOrder => cases other <;> rfl
  | invalidTransition => cases other <;> rfl

theorem failed_refused {call : TrackerCall} {error : LifecycleError}
    (named : error ≠ .none)
    (duplicate : error = .duplicateOrder ↔ registers call = true)
    (known : registers call = true → orderOf call ∈ tracker.records)
    (invalid : error = .invalidTransition ↔ Misplaced tracker call)
    (absent : error = .unknownOrder → orderOf call ∉ tracker.records) :
    Refused tracker call (failed tracker error) where
  records := rfl
  counters := rfl
  executionReports := rfl
  transitionErrors := failed_transitionErrors tracker error
  named := named
  counted := by
    rw [failed_lastError, failed_classCount tracker named, if_pos rfl]
  others := by
    intro other different
    rw [failed_lastError] at different
    rw [failed_classCount tracker named, if_neg different, Nat.add_zero]
  duplicate := duplicate
  known := known
  invalid := invalid
  unknown := by
    rw [failed_lastError, ← Bool.not_eq_true, ← duplicate, ← invalid]
    cases error with
    | none => contradiction
    | duplicateOrder => decide
    | unknownOrder => decide
    | invalidTransition => decide
  absent := absent

/-- A registration fails as a duplicate. -/
theorem register_refused {call : TrackerCall}
    (registration : registers call = true)
    (known : orderOf call ∈ tracker.records) :
    Refused tracker call (failed tracker .duplicateOrder) := by
  apply failed_refused
  · decide
  · exact iff_of_true rfl registration
  · exact fun _ => known
  · cases call with
    | mark sequenceId mark => cases registration
    | registerCreated sequenceId => simp [Misplaced]
    | registerQueued sequenceId => simp [Misplaced]
  · simp

/-- A mark fails without its reason, on no record, or in a wrong state. -/
theorem mark_refused (sequenceId : UInt64) (mark : Mark)
    (illegal : ∀ record, ¬ Legal tracker sequenceId record mark) :
    ∃ next, applyMark tracker sequenceId mark = (false, next) ∧
      Refused tracker (.mark sequenceId mark) next := by
  by_cases misplaced : Misplaced tracker (.mark sequenceId mark)
  · refine ⟨failed tracker .invalidTransition, ?_, ?_⟩
    · rcases misplaced with reason | ⟨record, found, state⟩
      · exact applyMark_of_reasonMissing reason
      · exact applyMark_of_wrong_state found state
    · apply failed_refused
      · decide
      · simp [registers]
      · simp [registers]
      · exact iff_of_true rfl misplaced
      · simp
  · have given : mark.reasonMissing = false := by
      cases reason : mark.reasonMissing with
      | false => rfl
      | true => exact absurd (Or.inl reason) misplaced
    have absent : tracker.records.lookup sequenceId = none := by
      cases found : tracker.records.lookup sequenceId with
      | none => rfl
      | some record =>
          have state : record.state = mark.source := by
            by_contra other
            exact misplaced (Or.inr ⟨record, found, other⟩)
          exact absurd ⟨found, state, given⟩ (illegal record)
    refine ⟨failed tracker .unknownOrder,
      applyMark_of_unknown given absent, ?_⟩
    apply failed_refused
    · decide
    · simp [registers]
    · simp [registers]
    · exact iff_of_false (by decide) misplaced
    · exact fun _ => Finmap.lookup_eq_none.mp absent

end Failures

/-! ## Successes -/

section Successes

variable (tracker : OrderLifecycleTracker) (sequenceId : UInt64)

theorem registered_carried (unknown : sequenceId ∉ tracker.records) :
    Carried tracker (.registerCreated sequenceId)
      (registered tracker sequenceId) where
  errors := rfl
  lastError := rfl
  frame := by
    intro other different
    exact Finmap.lookup_insert_of_ne tracker.records different
  transition := by
    have before : tracker.records.lookup sequenceId = none :=
      Finmap.lookup_eq_none.mpr unknown
    have after :
        (registered tracker sequenceId).records.lookup sequenceId =
          some { sequenceId := sequenceId, state := .created } :=
      Finmap.lookup_insert tracker.records
    rw [orderOf, before, after]
    exact .created sequenceId
  reports := by
    rw [registered, Option.map_map]
    rfl

theorem enqueued_carried (unknown : sequenceId ∉ tracker.records) :
    Carried tracker (.registerQueued sequenceId)
      (enqueued tracker sequenceId) where
  errors := rfl
  lastError := rfl
  frame := by
    intro other different
    rw [(enqueued_updated tracker sequenceId).records]
    exact Finmap.lookup_insert_of_ne tracker.records different
  transition := by
    have before : tracker.records.lookup sequenceId = none :=
      Finmap.lookup_eq_none.mpr unknown
    have after :
        (enqueued tracker sequenceId).records.lookup sequenceId =
          some { sequenceId := sequenceId, state := .queued } := by
      rw [(enqueued_updated tracker sequenceId).records]
      exact Finmap.lookup_insert tracker.records
    rw [orderOf, before, after]
    exact .queued sequenceId
  reports := by
    rw [enqueued, marked, registered, Option.map_map, Option.map_map]
    congr 1
    ext1 journal
    exact List.append_assoc journal.reports [_] [_]

theorem marked_carried {record : OrderLifecycleRecord} {mark : Mark}
    (legal : Legal tracker sequenceId record mark) :
    Carried tracker (.mark sequenceId mark)
      (marked tracker sequenceId record mark) where
  errors := rfl
  lastError := rfl
  frame := by
    intro other different
    exact Finmap.lookup_insert_of_ne tracker.records different
  transition := by
    have after :
        (marked tracker sequenceId record mark).records.lookup sequenceId =
          some (mark.moved record) :=
      Finmap.lookup_insert tracker.records
    rw [orderOf, legal.found, after]
    exact .marked sequenceId mark record legal.state legal.reason
  reports := by
    rw [marked, Option.map_map]
    rfl

end Successes

/-! ## Every call -/

/-- The outcome of a call that returned `succeeded`. -/
def Outcome (tracker : OrderLifecycleTracker) (call : TrackerCall)
    (succeeded : Bool) (next : OrderLifecycleTracker) : Prop :=
  (succeeded = false → Refused tracker call next) ∧
    (succeeded = true → Carried tracker call next)

theorem Outcome.of_refused {tracker next : OrderLifecycleTracker}
    {call : TrackerCall} (refused : Refused tracker call next) :
    Outcome tracker call false next := by
  constructor
  · exact fun _ => refused
  · exact fun succeeded => absurd succeeded Bool.false_ne_true

theorem Outcome.of_carried {tracker next : OrderLifecycleTracker}
    {call : TrackerCall} (carried : Carried tracker call next) :
    Outcome tracker call true next := by
  constructor
  · exact fun failed => absurd failed.symm Bool.false_ne_true
  · exact fun _ => carried

/-- The step lemma: every call on every tracker has one of the two outcomes. -/
theorem trackerStep_outcome (tracker : OrderLifecycleTracker)
    (call : TrackerCall) :
    Outcome tracker call (trackerStep tracker call).1
      (trackerStep tracker call).2 := by
  cases call with
  | registerCreated sequenceId =>
      rw [trackerStep]
      by_cases known : sequenceId ∈ tracker.records
      · rw [registerCreated_of_known known]
        exact .of_refused (register_refused tracker rfl known)
      · rw [registerCreated_of_unknown known]
        exact .of_carried (registered_carried tracker sequenceId known)
  | registerQueued sequenceId =>
      rw [trackerStep]
      by_cases known : sequenceId ∈ tracker.records
      · rw [registerQueued_of_known known]
        exact .of_refused (register_refused tracker rfl known)
      · rw [registerQueued_of_unknown known]
        exact .of_carried (enqueued_carried tracker sequenceId known)
  | mark sequenceId mark =>
      rw [trackerStep]
      by_cases legal : ∃ record, Legal tracker sequenceId record mark
      · rcases legal with ⟨record, permitted⟩
        rw [applyMark_of_legal permitted]
        exact .of_carried (marked_carried tracker sequenceId permitted)
      · obtain ⟨next, result, refused⟩ :=
          mark_refused tracker sequenceId mark (not_exists.mp legal)
        rw [result]
        exact .of_refused refused

/-! ## Every run -/

/-- The error counters after some calls: the failures, class by class. -/
structure ErrorsBalance (errors : LifecycleErrors) (failures : Nat) :
    Prop where
  classes :
    errors.transitionErrors =
      errors.duplicateOrderErrors + errors.unknownOrderErrors +
        errors.invalidTransitionErrors
  failures : errors.transitionErrors = failures

theorem Refused.balance {tracker next : OrderLifecycleTracker}
    {call : TrackerCall} {failures : Nat}
    (refused : Refused tracker call next)
    (balance : ErrorsBalance tracker.errors failures) :
    ErrorsBalance next.errors (failures + 1) := by
  have total := balance.classes
  have grown := refused.transitionErrors
  have counted := refused.counted
  have others := refused.others
  constructor
  · cases named : next.lastError with
    | none => exact absurd named refused.named
    | duplicateOrder =>
        rw [named] at counted others
        have unknown := others .unknownOrder (by decide)
        have invalid := others .invalidTransition (by decide)
        simp only [classCount] at counted unknown invalid
        omega
    | unknownOrder =>
        rw [named] at counted others
        have duplicate := others .duplicateOrder (by decide)
        have invalid := others .invalidTransition (by decide)
        simp only [classCount] at counted duplicate invalid
        omega
    | invalidTransition =>
        rw [named] at counted others
        have duplicate := others .duplicateOrder (by decide)
        have unknown := others .unknownOrder (by decide)
        simp only [classCount] at counted duplicate unknown
        omega
  · rw [grown, balance.failures]

/-- The number of calls of a history that returned `false`. -/
def failures
    (history : List (Event OrderLifecycleTracker TrackerCall Bool)) : Nat :=
  history.countP fun event => !event.output

theorem run_errorsBalance (journal : Option ExecutionReportJournal)
    (calls : List TrackerCall) :
    ErrorsBalance (run trackerStep (newTracker journal) calls).errors
      (failures (events trackerStep (newTracker journal) calls)) := by
  apply
    run_history_induction trackerStep
      (motive := fun history tracker =>
        ErrorsBalance tracker.errors (failures history))
  · exact ⟨rfl, rfl⟩
  · intro history tracker call balance
    have outcome := trackerStep_outcome tracker call
    rw [failures, List.countP_append, List.countP_singleton, ← failures]
    cases result : (trackerStep tracker call).1 with
    | false =>
        simp only [event, result, Bool.not_false, if_true]
        exact (outcome.1 result).balance balance
    | true =>
        simp only [event, result, Bool.not_true, Bool.false_eq_true,
          if_false, Nat.add_zero, (outcome.2 result).errors]
        exact balance

/--
Every public call on every tracker is atomic: it fails and counts one error of
the class it names, or succeeds with one legal transition of its own order and
the reports of it.  Over any run of a new tracker the failures are therefore
the sum of the three classes.
-/
theorem tracker_calls_are_atomic :
    (∀ tracker call,
      Outcome tracker call (trackerStep tracker call).1
        (trackerStep tracker call).2) ∧
    ∀ journal calls,
      ErrorsBalance (run trackerStep (newTracker journal) calls).errors
        (failures (events trackerStep (newTracker journal) calls)) :=
  ⟨trackerStep_outcome, run_errorsBalance⟩

end Llgw.MutatorErrors
