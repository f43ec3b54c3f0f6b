import Llgw.Foundation.StorePopulation
import Llgw.Foundation.TransitionRun
import Llgw.LifecycleMarks

/-!
# The populations of the lifecycle states

The twelve counters of a tracker count the edges of the lifecycle graph that
its orders have taken.  Every order is in the state that it entered last, so
what has entered a state and not left it is the population of that state.
-/

namespace Llgw.StatePopulations

open Llgw.Foundation.KeyedStore
open Llgw.Foundation.StorePopulation
open Llgw.Foundation.TransitionRun
open Llgw.Reports
open Llgw.Lifecycle
open Llgw.LifecycleMarks

/-- The number of records in a state. -/
def populationOf (tracker : OrderLifecycleTracker)
    (state : OrderLifecycleState) : Nat :=
  population (fun record => record.state == state) tracker.records

/-! ## Flows -/

/-- How many orders have entered a state. -/
def inflow (counters : LifecycleCounters) : OrderLifecycleState → Nat
  | .created => counters.ordersRegistered
  | .queued => counters.ordersQueued
  | .riskRejected => counters.ordersRiskRejected
  | .sent => counters.ordersSent
  | .exchangeAccepted =>
      counters.ordersExchangeAccepted + counters.cancelsRejected +
        counters.amendsAccepted + counters.amendsRejected
  | .exchangeRejected => counters.ordersExchangeRejected
  | .cancelPending => counters.cancelRequests
  | .cancelled => counters.cancelsAccepted
  | .amendPending => counters.amendRequests

/-- How many orders have left a state. -/
def outflow (counters : LifecycleCounters) : OrderLifecycleState → Nat
  | .created => counters.ordersQueued
  | .queued => counters.ordersRiskRejected + counters.ordersSent
  | .riskRejected => 0
  | .sent =>
      counters.ordersExchangeAccepted + counters.ordersExchangeRejected
  | .exchangeAccepted => counters.cancelRequests + counters.amendRequests
  | .exchangeRejected => 0
  | .cancelPending => counters.cancelsAccepted + counters.cancelsRejected
  | .cancelled => 0
  | .amendPending => counters.amendsAccepted + counters.amendsRejected

/-- A mark is an entry into its target. -/
theorem inflow_count (mark : Mark) (counters : LifecycleCounters)
    (state : OrderLifecycleState) :
    inflow (mark.count counters) state =
      inflow counters state + if mark.target == state then 1 else 0 := by
  cases mark <;> cases state <;> simp [inflow, Mark.count, Mark.target] <;>
    omega

/-- A mark is an exit from its source. -/
theorem outflow_count (mark : Mark) (counters : LifecycleCounters)
    (state : OrderLifecycleState) :
    outflow (mark.count counters) state =
      outflow counters state + if mark.source == state then 1 else 0 := by
  cases mark <;> cases state <;>
    simp [outflow, Mark.count, Mark.source] <;> omega

/-- Conservation: what has entered a state is still in it or has left it. -/
structure Conserved (tracker : OrderLifecycleTracker) : Prop where
  records : tracker.records.keys.card = tracker.counters.ordersRegistered
  flows :
    ∀ state,
      populationOf tracker state + outflow tracker.counters state =
        inflow tracker.counters state

/-! ## One call -/

theorem Conserved.registered {tracker : OrderLifecycleTracker}
    (conserved : Conserved tracker) {sequenceId : UInt64}
    (unknown : sequenceId ∉ tracker.records) :
    Conserved (registered tracker sequenceId) where
  records := by
    rw [LifecycleMarks.registered, card_keys_insert_of_notMem unknown,
      conserved.records]
  flows := by
    intro state
    have grown :
        populationOf (LifecycleMarks.registered tracker sequenceId) state =
          populationOf tracker state +
            if OrderLifecycleState.created == state then 1 else 0 :=
      population_insert_of_notMem unknown
    have flow := conserved.flows state
    rw [grown]
    cases state with
    | created =>
        simp only [LifecycleMarks.registered, inflow, outflow, beq_self_eq_true,
          if_true] at flow ⊢
        omega
    | _ => exact flow

theorem Conserved.marked {tracker : OrderLifecycleTracker}
    (conserved : Conserved tracker) {sequenceId : UInt64}
    {record : OrderLifecycleRecord} {mark : Mark}
    (legal : Legal tracker sequenceId record mark) :
    Conserved (marked tracker sequenceId record mark) where
  records := by
    have present : sequenceId ∈ tracker.records :=
      Finmap.mem_of_lookup_eq_some legal.found
    have counted :
        (mark.count tracker.counters).ordersRegistered =
          tracker.counters.ordersRegistered := by
      cases mark <;> rfl
    rw [LifecycleMarks.marked, card_keys_insert_of_mem present, counted,
      conserved.records]
  flows := by
    intro state
    have moved :
        populationOf (LifecycleMarks.marked tracker sequenceId record mark)
              state +
            (if record.state == state then 1 else 0) =
          populationOf tracker state +
            if (mark.moved record).state == state then 1 else 0 :=
      population_insert_of_lookup legal.found
    rw [legal.state, Mark.moved_state] at moved
    have flow := conserved.flows state
    rw [LifecycleMarks.marked, inflow_count, outflow_count]
    rw [LifecycleMarks.marked] at moved
    omega

/-- The step lemma: every public call conserves orders. -/
theorem trackerStep_conserved (tracker : OrderLifecycleTracker)
    (call : TrackerCall) (conserved : Conserved tracker) :
    Conserved (trackerStep tracker call).2 := by
  apply trackerStep_preserves Conserved
  · intro later error held
    exact ⟨held.records, held.flows⟩
  · intro later sequenceId unknown held
    exact held.registered unknown
  · intro later sequenceId record mark legal held
    exact held.marked legal
  · exact conserved

/-! ## Every run -/

/-- The population of every state, read from the counters. -/
structure Determined (tracker : OrderLifecycleTracker)
    (counters : LifecycleCounters) : Prop where
  records : tracker.records.keys.card = counters.ordersRegistered
  created :
    populationOf tracker .created =
      counters.ordersRegistered - counters.ordersQueued
  queued :
    populationOf tracker .queued =
      counters.ordersQueued - counters.ordersRiskRejected -
        counters.ordersSent
  riskRejected :
    populationOf tracker .riskRejected = counters.ordersRiskRejected
  sent :
    populationOf tracker .sent =
      counters.ordersSent - counters.ordersExchangeAccepted -
        counters.ordersExchangeRejected
  exchangeRejected :
    populationOf tracker .exchangeRejected =
      counters.ordersExchangeRejected
  cancelPending :
    populationOf tracker .cancelPending =
      counters.cancelRequests - counters.cancelsAccepted -
        counters.cancelsRejected
  amendPending :
    populationOf tracker .amendPending =
      counters.amendRequests - counters.amendsAccepted -
        counters.amendsRejected
  cancelled : populationOf tracker .cancelled = counters.cancelsAccepted
  exchangeAccepted :
    populationOf tracker .exchangeAccepted =
      counters.ordersExchangeAccepted + counters.cancelsRejected +
          counters.amendsAccepted + counters.amendsRejected -
        counters.cancelRequests - counters.amendRequests

/-- No difference of counters that gives a population is negative. -/
structure NoUnderflow (counters : LifecycleCounters) : Prop where
  created : counters.ordersQueued ≤ counters.ordersRegistered
  queued :
    counters.ordersRiskRejected + counters.ordersSent ≤
      counters.ordersQueued
  sent :
    counters.ordersExchangeAccepted + counters.ordersExchangeRejected ≤
      counters.ordersSent
  cancelPending :
    counters.cancelsAccepted + counters.cancelsRejected ≤
      counters.cancelRequests
  amendPending :
    counters.amendsAccepted + counters.amendsRejected ≤
      counters.amendRequests
  exchangeAccepted :
    counters.cancelRequests + counters.amendRequests ≤
      counters.ordersExchangeAccepted + counters.cancelsRejected +
        counters.amendsAccepted + counters.amendsRejected

theorem Conserved.noUnderflow {tracker : OrderLifecycleTracker}
    (conserved : Conserved tracker) : NoUnderflow tracker.counters := by
  have bound (state : OrderLifecycleState) :
      outflow tracker.counters state ≤ inflow tracker.counters state := by
    rw [← conserved.flows state]
    exact Nat.le_add_left _ _
  exact
    { created := bound .created
      queued := bound .queued
      sent := bound .sent
      cancelPending := bound .cancelPending
      amendPending := bound .amendPending
      exchangeAccepted := bound .exchangeAccepted }

theorem Conserved.determined {tracker : OrderLifecycleTracker}
    (conserved : Conserved tracker) :
    Determined tracker tracker.counters := by
  have remains (state : OrderLifecycleState) :
      populationOf tracker state =
        inflow tracker.counters state - outflow tracker.counters state := by
    rw [← conserved.flows state, Nat.add_sub_cancel]
  constructor
  case records => exact conserved.records
  case created | riskRejected | exchangeRejected | cancelled =>
    exact remains _
  all_goals
    rw [Nat.sub_sub]
    exact remains _

/--
After every finite sequence of public calls on a new tracker, with or without
a journal, the counters determine how many orders are in each state.
-/
theorem counters_determine_populations
    (journal : Option ExecutionReportJournal) (calls : List TrackerCall) :
    Determined (run trackerStep (newTracker journal) calls)
        (run trackerStep (newTracker journal) calls).counters ∧
      NoUnderflow
        (run trackerStep (newTracker journal) calls).counters := by
  have conserved :
      Conserved (run trackerStep (newTracker journal) calls) := by
    apply run_invariant trackerStep Conserved
    · constructor
      · rfl
      · intro state
        have none : populationOf (newTracker journal) state = 0 :=
          population_empty
        rw [none]
        cases state <;> rfl
    · exact trackerStep_conserved
  exact ⟨conserved.determined, conserved.noUnderflow⟩

end Llgw.StatePopulations
