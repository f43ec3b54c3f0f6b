import Llgw.Foundation.LabelledTrace
import Llgw.Pipeline

/-!
# Runs of a wired system

The callers of the components drive a system through four operations of the
pipeline and the gateway.  `step` is one such call; runs of calls are those of
`TransitionRun`.
-/

namespace Llgw.System

open Llgw.Foundation
open Llgw.Foundation.LabelledTrace
open Llgw.Messages
open Llgw.Risk
open Llgw.Gateway
open Llgw.Pipeline

variable {capacity : ℕ+}

inductive Call where
  | enqueue (request : OrderRequest)
  | drain
  | sendCancel (request : CancelRequest)
  | sendAmend (request : AmendRequest)
deriving DecidableEq

/-- The value a call returns, with the iterations of a drain. -/
inductive Reply where
  | enqueued (accepted : Bool)
  | drained (drainedNow : Nat) (calls : List DrainCall)
  | cancelled (response : CancelResponse)
  | amended (response : AmendResponse)
deriving DecidableEq

/-- What is seen of a call: its argument with the answer, order by order. -/
inductive Observation where
  | enqueued (request : OrderRequest) (accepted : Bool)
  | drained (call : DrainCall)
  | cancelled (request : CancelRequest) (response : CancelResponse)
  | amended (request : AmendRequest) (response : AmendResponse)
deriving DecidableEq

/-- The observations of a call, which are several for a drain. -/
def observations : Call → Reply → List Observation
  | .enqueue request, .enqueued accepted => [.enqueued request accepted]
  | .drain, .drained _ calls => calls.map .drained
  | .sendCancel request, .cancelled response =>
      [.cancelled request response]
  | .sendAmend request, .amended response => [.amended request response]
  | _, _ => []

/-- One call on the pipeline or on its gateway. -/
def step (wiring : Wiring) (system : System capacity) :
    Call → Reply × System capacity
  | .enqueue request =>
      let result := enqueue wiring system request
      (.enqueued result.1, result.2)
  | .drain =>
      let result := drain wiring system
      (.drained result.drainedNow result.calls, result.system)
  | .sendCancel request =>
      let result := sendCancel wiring.venue system.toVenue request
      (.cancelled result.1, { system with toVenue := result.2 })
  | .sendAmend request =>
      let result := sendAmend wiring.venue system.toVenue request
      (.amended result.1, { system with toVenue := result.2 })

/--
Newly constructed components: a risk manager built from `limits` and a
tracker with or without a new journal.
-/
def fresh (limits : RiskLimits) (journal : Bool) : System capacity where
  lifecycleTracker :=
    { executionReports := if journal then some {} else none }
  riskManager := .ofLimits limits

/-- The state after a sequence of calls on fresh components. -/
def runFresh (wiring : Wiring) (limits : RiskLimits) (journal : Bool)
    (calls : List Call) : System capacity :=
  TransitionRun.run (step wiring) (fresh limits journal) calls

/-- Everything that is seen of a sequence of calls on fresh components. -/
def observedFresh (capacity : ℕ+) (wiring : Wiring) (limits : RiskLimits)
    (journal : Bool) (calls : List Call) : List Observation :=
  observed (step wiring)
    (fun event => observations event.input event.output)
    (fresh limits journal : System capacity) calls

/-- `G(&E, &T)` and `P(&G, R, &T)`, with or without a risk manager. -/
def tracked (riskManager : Bool) : Wiring where
  venue := { exchange := true, lifecycleTracker := true }
  gateway := true
  riskManager := riskManager
  lifecycleTracker := true

/-- `G(&E)` and `P(&G, R)`: the same objects without a tracker. -/
def untracked (riskManager : Bool) : Wiring where
  venue := { exchange := true, lifecycleTracker := false }
  gateway := true
  riskManager := riskManager
  lifecycleTracker := false

end Llgw.System
