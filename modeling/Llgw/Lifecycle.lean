import Llgw.Foundation.KeyedStore
import Llgw.Reports

/-!
# The order lifecycle tracker

`OrderLifecycleTracker` of `order_lifecycle.hpp` and `order_lifecycle.cpp`.
The eleven `Mark*` methods share one shape: a guarded state transition, an
optional reason, one counter and one report.  `mark` is that shape, and every
method is `mark` at its own values.

The journal pointer is an `Option`: `none` is the null pointer, and an
attached journal is carried in place because the tracker is its only writer.
-/

namespace Llgw.Lifecycle

open Llgw.Foundation.KeyedStore
open Llgw.Messages
open Llgw.Risk
open Llgw.Reports

inductive OrderLifecycleState where
  | created
  | queued
  | riskRejected
  | sent
  | exchangeAccepted
  | exchangeRejected
  | cancelPending
  | cancelled
  | amendPending
deriving DecidableEq, Repr

inductive LifecycleError where
  | none
  | duplicateOrder
  | unknownOrder
  | invalidTransition
deriving DecidableEq, Repr

structure OrderLifecycleRecord where
  sequenceId : UInt64 := 0
  state : OrderLifecycleState := .created
  riskRejectReason : RiskRejectReason := .none
  exchangeRejectReason : OrderRejectReason := .none
  cancelRejectReason : CancelRejectReason := .none
  amendRejectReason : AmendRejectReason := .none
deriving DecidableEq

/-- The twelve counters of successful calls. -/
structure LifecycleCounters where
  ordersRegistered : Nat := 0
  ordersQueued : Nat := 0
  ordersRiskRejected : Nat := 0
  ordersSent : Nat := 0
  ordersExchangeAccepted : Nat := 0
  ordersExchangeRejected : Nat := 0
  cancelRequests : Nat := 0
  cancelsAccepted : Nat := 0
  cancelsRejected : Nat := 0
  amendRequests : Nat := 0
  amendsAccepted : Nat := 0
  amendsRejected : Nat := 0
deriving DecidableEq

/-- The four counters of failed calls. -/
structure LifecycleErrors where
  transitionErrors : Nat := 0
  duplicateOrderErrors : Nat := 0
  unknownOrderErrors : Nat := 0
  invalidTransitionErrors : Nat := 0
deriving DecidableEq

structure OrderLifecycleTracker where
  executionReports : Option ExecutionReportJournal := none
  records : Store UInt64 OrderLifecycleRecord := ∅
  counters : LifecycleCounters := {}
  errors : LifecycleErrors := {}
  lastError : LifecycleError := .none

namespace OrderLifecycleTracker

/-- `OrderLifecycleTracker::Fail`. -/
def fail (tracker : OrderLifecycleTracker) (error : LifecycleError) :
    Bool × OrderLifecycleTracker :=
  let errors :=
    { tracker.errors with
      transitionErrors := tracker.errors.transitionErrors + 1 }
  let errors :=
    match error with
    | .duplicateOrder =>
        { errors with
          duplicateOrderErrors := errors.duplicateOrderErrors + 1 }
    | .unknownOrder =>
        { errors with unknownOrderErrors := errors.unknownOrderErrors + 1 }
    | .invalidTransition =>
        { errors with
          invalidTransitionErrors := errors.invalidTransitionErrors + 1 }
    | .none => errors
  (false, { tracker with errors := errors, lastError := error })

/-- `OrderLifecycleTracker::Transition`. -/
def transition (tracker : OrderLifecycleTracker) (sequenceId : UInt64)
    (expected next : OrderLifecycleState) : Bool × OrderLifecycleTracker :=
  match tracker.records.lookup sequenceId with
  | none => tracker.fail .unknownOrder
  | some record =>
      if record.state ≠ expected then tracker.fail .invalidTransition
      else
        (true,
          { tracker with
            records :=
              tracker.records.insert sequenceId { record with state := next }
            lastError := .none })

/-- `OrderLifecycleTracker::RegisterCreated`. -/
def registerCreated (tracker : OrderLifecycleTracker) (sequenceId : UInt64) :
    Bool × OrderLifecycleTracker :=
  let result :=
    emplace sequenceId
      ({ sequenceId := sequenceId } : OrderLifecycleRecord) tracker.records
  if !result.1 then tracker.fail .duplicateOrder
  else
    (true,
      { tracker with
        executionReports :=
          tracker.executionReports.map fun journal =>
            journal.recordState sequenceId .created
        records := result.2
        counters :=
          { tracker.counters with
            ordersRegistered := tracker.counters.ordersRegistered + 1 }
        lastError := .none })

/--
The shape of a `Mark*` method: a transition, then a reason, a counter and a
report.  Nothing but the error state changes when the transition is refused.
-/
def mark (tracker : OrderLifecycleTracker) (sequenceId : UInt64)
    (expected next : OrderLifecycleState)
    (setReason : OrderLifecycleRecord → OrderLifecycleRecord)
    (count : LifecycleCounters → LifecycleCounters)
    (report : ExecutionReportJournal → ExecutionReportJournal) :
    Bool × OrderLifecycleTracker :=
  let moved := tracker.transition sequenceId expected next
  if !moved.1 then moved
  else
    (true,
      { moved.2 with
        executionReports := moved.2.executionReports.map report
        records := modify sequenceId setReason moved.2.records
        counters := count moved.2.counters })

/-- `OrderLifecycleTracker::MarkQueued`. -/
def markQueued (tracker : OrderLifecycleTracker) (sequenceId : UInt64) :
    Bool × OrderLifecycleTracker :=
  tracker.mark sequenceId .created .queued id
    (fun counters =>
      { counters with ordersQueued := counters.ordersQueued + 1 })
    (fun journal => journal.recordState sequenceId .queued)

/-- `OrderLifecycleTracker::RegisterQueued`. -/
def registerQueued (tracker : OrderLifecycleTracker) (sequenceId : UInt64) :
    Bool × OrderLifecycleTracker :=
  let registered := tracker.registerCreated sequenceId
  if !registered.1 then (false, registered.2)
  else registered.2.markQueued sequenceId

/-- `OrderLifecycleTracker::MarkRiskRejected`. -/
def markRiskRejected (tracker : OrderLifecycleTracker) (sequenceId : UInt64)
    (reason : RiskRejectReason) : Bool × OrderLifecycleTracker :=
  if reason = .none then tracker.fail .invalidTransition
  else
    tracker.mark sequenceId .queued .riskRejected
      (fun record => { record with riskRejectReason := reason })
      (fun counters =>
        { counters with
          ordersRiskRejected := counters.ordersRiskRejected + 1 })
      (fun journal => journal.recordRiskRejected sequenceId reason)

/-- `OrderLifecycleTracker::MarkSent`. -/
def markSent (tracker : OrderLifecycleTracker) (sequenceId : UInt64) :
    Bool × OrderLifecycleTracker :=
  tracker.mark sequenceId .queued .sent id
    (fun counters =>
      { counters with ordersSent := counters.ordersSent + 1 })
    (fun journal => journal.recordState sequenceId .sent)

/-- `OrderLifecycleTracker::MarkExchangeAccepted`. -/
def markExchangeAccepted (tracker : OrderLifecycleTracker)
    (sequenceId : UInt64) : Bool × OrderLifecycleTracker :=
  tracker.mark sequenceId .sent .exchangeAccepted id
    (fun counters =>
      { counters with
        ordersExchangeAccepted := counters.ordersExchangeAccepted + 1 })
    (fun journal => journal.recordState sequenceId .exchangeAccepted)

/-- `OrderLifecycleTracker::MarkExchangeRejected`. -/
def markExchangeRejected (tracker : OrderLifecycleTracker)
    (sequenceId : UInt64) (reason : OrderRejectReason) :
    Bool × OrderLifecycleTracker :=
  if reason = .none then tracker.fail .invalidTransition
  else
    tracker.mark sequenceId .sent .exchangeRejected
      (fun record => { record with exchangeRejectReason := reason })
      (fun counters =>
        { counters with
          ordersExchangeRejected := counters.ordersExchangeRejected + 1 })
      (fun journal => journal.recordExchangeRejected sequenceId reason)

/-- `OrderLifecycleTracker::MarkCancelPending`. -/
def markCancelPending (tracker : OrderLifecycleTracker)
    (sequenceId : UInt64) : Bool × OrderLifecycleTracker :=
  tracker.mark sequenceId .exchangeAccepted .cancelPending id
    (fun counters =>
      { counters with cancelRequests := counters.cancelRequests + 1 })
    (fun journal => journal.recordState sequenceId .cancelPending)

/-- `OrderLifecycleTracker::MarkCancelled`. -/
def markCancelled (tracker : OrderLifecycleTracker) (sequenceId : UInt64) :
    Bool × OrderLifecycleTracker :=
  tracker.mark sequenceId .cancelPending .cancelled id
    (fun counters =>
      { counters with cancelsAccepted := counters.cancelsAccepted + 1 })
    (fun journal => journal.recordState sequenceId .cancelled)

/-- `OrderLifecycleTracker::MarkCancelRejected`. -/
def markCancelRejected (tracker : OrderLifecycleTracker)
    (sequenceId : UInt64) (reason : CancelRejectReason) :
    Bool × OrderLifecycleTracker :=
  if reason = .none then tracker.fail .invalidTransition
  else
    tracker.mark sequenceId .cancelPending .exchangeAccepted
      (fun record => { record with cancelRejectReason := reason })
      (fun counters =>
        { counters with cancelsRejected := counters.cancelsRejected + 1 })
      (fun journal => journal.recordCancelRejected sequenceId reason)

/-- `OrderLifecycleTracker::MarkAmendPending`. -/
def markAmendPending (tracker : OrderLifecycleTracker)
    (sequenceId : UInt64) : Bool × OrderLifecycleTracker :=
  tracker.mark sequenceId .exchangeAccepted .amendPending id
    (fun counters =>
      { counters with amendRequests := counters.amendRequests + 1 })
    (fun journal => journal.recordState sequenceId .amendPending)

/-- `OrderLifecycleTracker::MarkAmendAccepted`. -/
def markAmendAccepted (tracker : OrderLifecycleTracker)
    (sequenceId : UInt64) : Bool × OrderLifecycleTracker :=
  tracker.mark sequenceId .amendPending .exchangeAccepted
    (fun record => { record with amendRejectReason := .none })
    (fun counters =>
      { counters with amendsAccepted := counters.amendsAccepted + 1 })
    (fun journal => journal.recordState sequenceId .amendAccepted)

/-- `OrderLifecycleTracker::MarkAmendRejected`. -/
def markAmendRejected (tracker : OrderLifecycleTracker)
    (sequenceId : UInt64) (reason : AmendRejectReason) :
    Bool × OrderLifecycleTracker :=
  if reason = .none then tracker.fail .invalidTransition
  else
    tracker.mark sequenceId .amendPending .exchangeAccepted
      (fun record => { record with amendRejectReason := reason })
      (fun counters =>
        { counters with amendsRejected := counters.amendsRejected + 1 })
      (fun journal => journal.recordAmendRejected sequenceId reason)

/-- `OrderLifecycleTracker::Contains`. -/
def contains (tracker : OrderLifecycleTracker) (sequenceId : UInt64) : Bool :=
  sequenceId ∈ tracker.records

/-- `OrderLifecycleTracker::Find`. -/
def find (tracker : OrderLifecycleTracker) (sequenceId : UInt64) :
    Option OrderLifecycleRecord :=
  tracker.records.lookup sequenceId

/-- The lifecycle state of an order, if it is tracked. -/
def stateOf (tracker : OrderLifecycleTracker) (sequenceId : UInt64) :
    Option OrderLifecycleState :=
  (tracker.find sequenceId).map OrderLifecycleRecord.state

end OrderLifecycleTracker

end Llgw.Lifecycle
