import Llgw.RiskGuarantees

/-!
# Counting a history

What can be counted in the observations of a run.  What a call meets also
depends on the calls before it: a tracker of the pipeline knows the orders that
were taken in, and the buffer holds those that were not drained yet.
-/

namespace Llgw.HistoryCounts

open Llgw.Foundation.LabelledTrace
open Llgw.Messages
open Llgw.Risk
open Llgw.Lifecycle
open Llgw.Pipeline
open Llgw.System
open Llgw.RiskGuarantees

/-! ## Orders -/

/-- The orders that `Enqueue` took in, oldest first. -/
def takenIn (history : List Observation) : List OrderRequest :=
  history.filterMap fun
    | .enqueued request true => some request
    | _ => none

/-- Whether a tracker of the pipeline has a record of an id. -/
def known (wiring : Wiring) (past : List Observation)
    (sequenceId : UInt64) : Bool :=
  wiring.lifecycleTracker &&
    ((takenIn past).map OrderRequest.sequenceId).contains sequenceId

/-- How many orders wait in the buffer. -/
def waitingCount (past : List Observation) : Nat :=
  (takenIn past).length - (drainCalls past).length

/-- An order that `Enqueue` refused because its id has a record. -/
def refusedOffer (wiring : Wiring) :
    List Observation × Observation → Bool
  | (past, .enqueued request false) => known wiring past request.sequenceId
  | _ => false

/-- An order that `Enqueue` dropped because the buffer was full. -/
def droppedOffer (wiring : Wiring) :
    List Observation × Observation → Bool
  | (past, .enqueued request false) =>
      !known wiring past request.sequenceId
  | _ => false

/-- How many calls, each looked at with its past, are of a kind. -/
def countWithPast (kind : List Observation × Observation → Bool)
    (history : List Observation) : Nat :=
  (withPast [] history).countP kind

/-- The reason of the risk manager, if it refused the order. -/
def riskReason (call : DrainCall) : Option RiskRejectReason :=
  match call.outcome with
  | .riskRejected reason => some reason
  | _ => none

/-- The reasons of the risk manager, oldest first. -/
def riskRefusals (history : List Observation) : List RiskRejectReason :=
  (drainCalls history).filterMap riskReason

/-- How many orders were drained and not refused by the risk manager. -/
def passedCount (history : List Observation) : Nat :=
  (drainCalls history).countP fun call => (riskReason call).isNone

/-! ## Actions -/

def isCancel : Observation → Bool
  | .cancelled _ _ => true
  | _ => false

def isAmend : Observation → Bool
  | .amended _ _ => true
  | _ => false

/-- How many cancels were sent. -/
def cancelCount (history : List Observation) : Nat :=
  history.countP isCancel

/-- How many amendments were sent. -/
def amendCount (history : List Observation) : Nat :=
  history.countP isAmend

/-! ## One observation -/

section Single

variable (request : OrderRequest) (accepted : Bool) (call : DrainCall)
  (cancel : CancelRequest) (cancelled : CancelResponse)
  (amend : AmendRequest) (amended : AmendResponse)

@[simp]
theorem takenIn_accepted :
    takenIn [.enqueued request true] = [request] := rfl

@[simp]
theorem takenIn_refused : takenIn [.enqueued request false] = [] := rfl

@[simp]
theorem takenIn_drained : takenIn [.drained call] = [] := rfl

@[simp]
theorem drainCalls_enqueued :
    drainCalls [.enqueued request accepted] = [] := rfl

@[simp]
theorem drainCalls_drained : drainCalls [.drained call] = [call] := rfl

@[simp]
theorem riskRefusals_enqueued :
    riskRefusals [.enqueued request accepted] = [] := rfl

@[simp]
theorem riskRefusals_drained :
    riskRefusals [.drained call] = (riskReason call).toList := by
  cases refused : riskReason call <;> simp [riskRefusals, refused]

@[simp]
theorem passedCount_enqueued :
    passedCount [.enqueued request accepted] = 0 := rfl

@[simp]
theorem passedCount_drained :
    passedCount [.drained call] =
      if (riskReason call).isNone then 1 else 0 := by
  rw [passedCount, drainCalls_drained, List.countP_singleton]

@[simp]
theorem cancelCount_enqueued :
    cancelCount [.enqueued request accepted] = 0 := rfl

@[simp]
theorem cancelCount_drained : cancelCount [.drained call] = 0 := rfl

@[simp]
theorem cancelCount_cancelled :
    cancelCount [.cancelled cancel cancelled] = 1 := rfl

@[simp]
theorem cancelCount_amended :
    cancelCount [.amended amend amended] = 0 := rfl

@[simp]
theorem amendCount_enqueued :
    amendCount [.enqueued request accepted] = 0 := rfl

@[simp]
theorem amendCount_drained : amendCount [.drained call] = 0 := rfl

@[simp]
theorem amendCount_cancelled :
    amendCount [.cancelled cancel cancelled] = 0 := rfl

@[simp]
theorem amendCount_amended : amendCount [.amended amend amended] = 1 := rfl

end Single

/-! ## One more observation -/

section Concat

variable (history : List Observation) (seen : Observation)

theorem takenIn_concat :
    takenIn (history ++ [seen]) = takenIn history ++ takenIn [seen] :=
  List.filterMap_append

theorem riskRefusals_concat :
    riskRefusals (history ++ [seen]) =
      riskRefusals history ++ riskRefusals [seen] := by
  rw [riskRefusals, drainCalls_concat]
  exact List.filterMap_append

theorem passedCount_concat :
    passedCount (history ++ [seen]) =
      passedCount history + passedCount [seen] := by
  rw [passedCount, drainCalls_concat]
  exact List.countP_append

theorem cancelCount_concat :
    cancelCount (history ++ [seen]) =
      cancelCount history + cancelCount [seen] :=
  List.countP_append

theorem amendCount_concat :
    amendCount (history ++ [seen]) =
      amendCount history + amendCount [seen] :=
  List.countP_append

theorem countWithPast_concat
    (kind : List Observation × Observation → Bool) :
    countWithPast kind (history ++ [seen]) =
      countWithPast kind history +
        if kind (history, seen) then 1 else 0 := by
  rw [countWithPast, withPast_concat, List.countP_append,
    List.countP_singleton]
  rfl

end Concat

end Llgw.HistoryCounts
