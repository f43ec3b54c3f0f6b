import Llgw.Foundation.TransitionRun
import Llgw.Messages
import Mathlib.Data.List.Nodup

/-!
# The strategy

`SimpleStrategy` of `simple_strategy.hpp` and `simple_strategy.cpp`.  It buys
at the ask whenever the spread is wide enough.  A sequence id is used up
before the symbol is copied, so an order whose symbol is too long leaves a gap
in the ids.
-/

namespace Llgw.Strategy

open Llgw.Foundation.TransitionRun
open Llgw.Messages

/-- `kPriceEpsilon`. -/
def kPriceEpsilon : Float := 1e-9

structure SimpleStrategy where
  minSpread : Float
  nextSequenceId : UInt64 := 1
  signalsSeen : Nat := 0
  ordersGenerated : Nat := 0

/-- `SimpleStrategy::OnMarketData`. -/
def onMarketData (strategy : SimpleStrategy) (update : MarketDataUpdate) :
    Option OrderRequest × SimpleStrategy :=
  let strategy :=
    { strategy with signalsSeen := strategy.signalsSeen + 1 }
  let spread := update.askPrice - update.bidPrice
  if spread + kPriceEpsilon < strategy.minSpread then (none, strategy)
  else
    let request : OrderRequest := { sequenceId := strategy.nextSequenceId }
    let strategy :=
      { strategy with nextSequenceId := strategy.nextSequenceId + 1 }
    let assigned := FixedSymbol.assign update.symbol
    if !assigned.1 then (none, strategy)
    else
      (some
          { request with
            symbol := assigned.2
            side := .buy
            price := update.askPrice
            quantity := 10 },
        { strategy with ordersGenerated := strategy.ordersGenerated + 1 })

/-! ## What an order says -/

/-- An order to buy ten at the ask of an update. -/
structure BuysAtAsk (update : MarketDataUpdate) (order : OrderRequest) :
    Prop where
  symbol : order.symbol.view = update.symbol
  price : order.price = update.askPrice
  side : order.side = .buy
  quantity : order.quantity = 10

theorem view_assign {value : ByteString}
    (assigned : (FixedSymbol.assign value).1 = true) :
    (FixedSymbol.assign value).2.view = value := by
  unfold FixedSymbol.assign at assigned ⊢
  split_ifs at assigned ⊢
  rfl

/-- The three outcomes of `OnMarketData`. -/
inductive Answer (strategy : SimpleStrategy) (update : MarketDataUpdate) :
    Option OrderRequest × SimpleStrategy → Prop where
  /-- The spread is too narrow. -/
  | narrow :
      Answer strategy update
        (none, { strategy with signalsSeen := strategy.signalsSeen + 1 })
  /-- The symbol does not fit, and an id is lost. -/
  | unassigned :
      Answer strategy update
        (none,
          { strategy with
            signalsSeen := strategy.signalsSeen + 1
            nextSequenceId := strategy.nextSequenceId + 1 })
  | generated {order : OrderRequest}
      (numbered : order.sequenceId = strategy.nextSequenceId)
      (buys : BuysAtAsk update order) :
      Answer strategy update
        (some order,
          { strategy with
            signalsSeen := strategy.signalsSeen + 1
            nextSequenceId := strategy.nextSequenceId + 1
            ordersGenerated := strategy.ordersGenerated + 1 })

theorem onMarketData_answer (strategy : SimpleStrategy)
    (update : MarketDataUpdate) :
    Answer strategy update (onMarketData strategy update) := by
  simp only [onMarketData]
  split_ifs with narrow unassigned
  · exact .narrow
  · exact .unassigned
  · rw [Bool.not_eq_true', Bool.not_eq_false] at unassigned
    exact
      .generated rfl
        { symbol := view_assign unassigned
          price := rfl
          side := rfl
          quantity := rfl }

/-- Every order is to buy at the ask of the update that triggered it. -/
theorem onMarketData_buysAtAsk (strategy : SimpleStrategy)
    (update : MarketDataUpdate) :
    ∀ order ∈ (onMarketData strategy update).1, BuysAtAsk update order := by
  have answer := onMarketData_answer strategy update
  generalize onMarketData strategy update = result at answer ⊢
  cases answer with
  | narrow => exact fun order contradictory => nomatch contradictory
  | unassigned => exact fun order contradictory => nomatch contradictory
  | generated _ buys =>
      rintro order ⟨⟩
      exact buys

/-! ## The ids of a run -/

/-- A new strategy. -/
def newStrategy (minSpread : Float) : SimpleStrategy where
  minSpread := minSpread

/-- The orders that a new strategy generates. -/
def generatedOrders (minSpread : Float)
    (updates : List MarketDataUpdate) : List OrderRequest :=
  (outputs onMarketData (newStrategy minSpread) updates).reduceOption

/--
The orders generated so far have distinct ids, none of them above the number
of ids used up.
-/
structure Numbered (used : Nat) (orders : List OrderRequest)
    (strategy : SimpleStrategy) : Prop where
  next : strategy.nextSequenceId = UInt64.ofNat (used + 1)
  bounded : ∀ order ∈ orders, order.sequenceId.toNat ≤ used
  distinct : (orders.map OrderRequest.sequenceId).Nodup

namespace Numbered

variable {used : Nat} {orders : List OrderRequest}
  {strategy : SimpleStrategy}

theorem start (minSpread : Float) :
    Numbered 0 [] (newStrategy minSpread) where
  next := rfl
  bounded := by
    intro order member
    contradiction
  distinct := List.nodup_nil

/-- An id is lost. -/
theorem skip (numbered : Numbered used orders strategy) :
    Numbered (used + 1) orders
      { strategy with
        signalsSeen := strategy.signalsSeen + 1
        nextSequenceId := strategy.nextSequenceId + 1 } where
  next := by
    rw [numbered.next, UInt64.ofNat_add (used + 1)]
    rfl
  bounded order member :=
    Nat.le_succ_of_le (numbered.bounded order member)
  distinct := numbered.distinct

/-- An order gets the next id, while the ids last. -/
theorem generate (numbered : Numbered used orders strategy)
    (few : used + 1 < UInt64.size) {order : OrderRequest}
    (numberedNext : order.sequenceId = strategy.nextSequenceId) :
    Numbered (used + 1) (orders ++ [order])
      { strategy with
        signalsSeen := strategy.signalsSeen + 1
        nextSequenceId := strategy.nextSequenceId + 1
        ordersGenerated := strategy.ordersGenerated + 1 } := by
  have id : order.sequenceId.toNat = used + 1 := by
    rw [numberedNext, numbered.next]
    exact UInt64.toNat_ofNat_of_lt' few
  refine ⟨numbered.skip.next, ?_, ?_⟩
  · rw [List.forall_mem_append, List.forall_mem_singleton]
    exact ⟨numbered.skip.bounded, Nat.le_of_eq id⟩
  · rw [List.map_append, List.nodup_append]
    refine ⟨numbered.distinct, List.nodup_singleton _, ?_⟩
    intro old past new last equal
    rcases List.mem_map.mp past with ⟨other, member, rfl⟩
    rw [List.map_singleton, List.mem_singleton] at last
    have bound := numbered.bounded other member
    rw [equal, last, id] at bound
    exact absurd bound (Nat.not_succ_le_self used)

end Numbered

/-- What is known of a strategy after it has seen this many updates. -/
structure Issued (seen : Nat) (orders : List OrderRequest)
    (strategy : SimpleStrategy) : Prop where
  numbered : ∃ used ≤ seen, Numbered used orders strategy
  generated : strategy.ordersGenerated = orders.length
  signals : strategy.signalsSeen = seen

/-- The step lemma: one more update. -/
theorem Issued.concat {seen : Nat} {orders : List OrderRequest}
    {strategy : SimpleStrategy} (issued : Issued seen orders strategy)
    (few : seen + 1 < UInt64.size) (update : MarketDataUpdate) :
    Issued (seen + 1)
      (orders ++ [(onMarketData strategy update).1].reduceOption)
      (onMarketData strategy update).2 := by
  rcases issued.numbered with ⟨used, bound, numbered⟩
  have answer := onMarketData_answer strategy update
  generalize onMarketData strategy update = result at answer ⊢
  cases answer with
  | narrow =>
      rw [List.reduceOption_cons_of_none, List.reduceOption_nil,
        List.append_nil]
      constructor
      · exact ⟨used, Nat.le_succ_of_le bound,
          numbered.next, numbered.bounded, numbered.distinct⟩
      · exact issued.generated
      · exact congrArg (· + 1) issued.signals
  | unassigned =>
      rw [List.reduceOption_cons_of_none, List.reduceOption_nil,
        List.append_nil]
      constructor
      · exact ⟨used + 1, Nat.succ_le_succ bound, numbered.skip⟩
      · exact issued.generated
      · exact congrArg (· + 1) issued.signals
  | generated numberedNext _ =>
      rw [List.reduceOption_cons_of_some, List.reduceOption_nil]
      have fewer : used + 1 < UInt64.size :=
        Nat.lt_of_le_of_lt (Nat.succ_le_succ bound) few
      constructor
      · exact ⟨used + 1, Nat.succ_le_succ bound,
          numbered.generate fewer numberedNext⟩
      · rw [List.length_append]
        exact congrArg (· + 1) issued.generated
      · exact congrArg (· + 1) issued.signals

/-- The run lemma: the ids of a run are distinct while they last. -/
theorem run_issued (minSpread : Float) (updates : List MarketDataUpdate)
    (few : updates.length < UInt64.size) :
    Issued updates.length (generatedOrders minSpread updates)
      (run onMarketData (newStrategy minSpread) updates) := by
  induction updates using List.reverseRecOn with
  | nil =>
      exact
        { numbered := ⟨0, Nat.le_refl 0, .start minSpread⟩
          generated := rfl
          signals := rfl }
  | append_singleton updates last induction =>
      rw [List.length_append, List.length_singleton] at few ⊢
      have issued := induction (Nat.lt_of_succ_lt few)
      rw [generatedOrders, outputs_concat, List.reduceOption_append,
        run_concat]
      exact issued.concat few last

/-- The orders of a run have distinct ids. -/
theorem generatedOrders_distinct (minSpread : Float)
    (updates : List MarketDataUpdate)
    (few : updates.length < UInt64.size) :
    ((generatedOrders minSpread updates).map
      OrderRequest.sequenceId).Nodup := by
  rcases (run_issued minSpread updates few).numbered with ⟨_, _, numbered⟩
  exact numbered.distinct

/-- Every answer of a run is an order at the ask of its own update, or none. -/
theorem outputs_buyAtAsk (minSpread : Float)
    (updates : List MarketDataUpdate) :
    List.Forall₂
      (fun update answer => ∀ order ∈ answer, BuysAtAsk update order)
      updates (outputs onMarketData (newStrategy minSpread) updates) :=
  forall₂_outputs onMarketData
    (fun update answer => ∀ order ∈ answer, BuysAtAsk update order)
    onMarketData_buysAtAsk (newStrategy minSpread) updates

end Llgw.Strategy
