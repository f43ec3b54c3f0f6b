import Llgw.Strategy

/-!
# The numbers of the strategy's orders

`OnMarketData` has two exits without an order.  The first leaves the next
sequence id alone.  The second, for a symbol that `FixedSymbol::Assign`
refuses, has used up an id, so the numbers of the orders have no gaps exactly
as long as that exit is not taken.
-/

namespace Llgw.OrderNumbering

open Llgw.Foundation.TransitionRun
open Llgw.Messages
open Llgw.Strategy

variable {strategy : SimpleStrategy} {update : MarketDataUpdate}
  {minSpread : Float}

/-! ## The exits of `OnMarketData` -/

/-- The spread of an update is too narrow for a signal. -/
def Narrow (minSpread : Float) (update : MarketDataUpdate) : Prop :=
  update.askPrice - update.bidPrice + kPriceEpsilon < minSpread

instance (minSpread : Float) (update : MarketDataUpdate) :
    Decidable (Narrow minSpread update) :=
  inferInstanceAs (Decidable (_ < _))

/-- A symbol that a request can hold. -/
def SymbolFits (symbol : ByteString) : Prop :=
  symbol ≠ [] ∧ symbol.length ≤ kMaxLength

instance (symbol : ByteString) : Decidable (SymbolFits symbol) :=
  inferInstanceAs (Decidable (_ ∧ _))

theorem assign_iff (symbol : ByteString) :
    (FixedSymbol.assign symbol).1 = true ↔ SymbolFits symbol := by
  unfold FixedSymbol.assign SymbolFits
  split_ifs with fits empty
  · simp [empty]
  · simp [empty, fits]
  · simp [fits]

theorem onMarketData_narrow (narrow : Narrow strategy.minSpread update) :
    onMarketData strategy update =
      (none, { strategy with signalsSeen := strategy.signalsSeen + 1 }) :=
  if_pos narrow

/-- The second exit uses up an id. -/
theorem onMarketData_unassigned
    (wide : ¬ Narrow strategy.minSpread update)
    (unfit : ¬ SymbolFits update.symbol) :
    onMarketData strategy update =
      (none,
        { strategy with
          signalsSeen := strategy.signalsSeen + 1
          nextSequenceId := strategy.nextSequenceId + 1 }) := by
  have refused : (!(FixedSymbol.assign update.symbol).1) = true := by
    rw [Bool.not_eq_true', ← Bool.not_eq_true, assign_iff]
    exact unfit
  exact (if_neg wide).trans (if_pos refused)

theorem onMarketData_generated
    (wide : ¬ Narrow strategy.minSpread update)
    (fits : SymbolFits update.symbol) :
    ∃ order,
      order.sequenceId = strategy.nextSequenceId ∧
        onMarketData strategy update =
          (some order,
            { strategy with
              signalsSeen := strategy.signalsSeen + 1
              nextSequenceId := strategy.nextSequenceId + 1
              ordersGenerated := strategy.ordersGenerated + 1 }) := by
  have assigned : ¬ (!(FixedSymbol.assign update.symbol).1) = true := by
    rw [Bool.not_eq_true', Bool.not_eq_false, assign_iff]
    exact fits
  exact ⟨_, rfl, (if_neg wide).trans (if_neg assigned)⟩

/-! ## Numbers without gaps -/

/-- The numbers of the orders of a run are `1`, `2` and so on. -/
structure WithoutGaps (minSpread : Float)
    (updates : List MarketDataUpdate) : Prop where
  unanswered :
    ∀ call ∈ events onMarketData (newStrategy minSpread) updates,
      call.output = none →
        call.after.nextSequenceId = call.before.nextSequenceId ∧
          call.after.ordersGenerated = call.before.ordersGenerated
  numbered :
    ∀ seen, seen <+: updates →
      (generatedOrders minSpread seen).map
          (fun order => order.sequenceId.toNat) =
        List.range' 1
          (run onMarketData (newStrategy minSpread) seen).ordersGenerated
  symbols :
    List.Forall₂
      (fun update answer =>
        ∀ order ∈ answer, order.symbol.view = update.symbol)
      updates (outputs onMarketData (newStrategy minSpread) updates)

/-- An update on which no id is lost. -/
def KeepsNumbers (minSpread : Float) (update : MarketDataUpdate) : Prop :=
  Narrow minSpread update ∨ SymbolFits update.symbol

instance (minSpread : Float) (update : MarketDataUpdate) :
    Decidable (KeepsNumbers minSpread update) :=
  inferInstanceAs (Decidable (_ ∨ _))

/-- What is known of a strategy that has not lost an id. -/
structure Counted (minSpread : Float) (seen : Nat)
    (orders : List OrderRequest) (strategy : SimpleStrategy) : Prop where
  spread : strategy.minSpread = minSpread
  bounded : strategy.ordersGenerated ≤ seen
  next :
    strategy.nextSequenceId = UInt64.ofNat (strategy.ordersGenerated + 1)
  numbered :
    orders.map (fun order => order.sequenceId.toNat) =
      List.range' 1 strategy.ordersGenerated

/-- The step lemma: one more update on which no id is lost. -/
theorem Counted.concat {seen : Nat} {orders : List OrderRequest}
    (counted : Counted minSpread seen orders strategy)
    (few : seen + 1 < UInt64.size)
    (keeps : KeepsNumbers minSpread update) :
    Counted minSpread (seen + 1)
      (orders ++ [(onMarketData strategy update).1].reduceOption)
      (onMarketData strategy update).2 := by
  rcases counted with ⟨rfl, bounded, next, numbered⟩
  by_cases narrow : Narrow strategy.minSpread update
  · rw [onMarketData_narrow narrow, List.reduceOption_cons_of_none,
      List.reduceOption_nil, List.append_nil]
    exact ⟨rfl, Nat.le_succ_of_le bounded, next, numbered⟩
  · have fits := keeps.resolve_left narrow
    rcases onMarketData_generated narrow fits with ⟨order, id, answer⟩
    have number : order.sequenceId.toNat = strategy.ordersGenerated + 1 := by
      rw [id, next]
      apply UInt64.toNat_ofNat_of_lt'
      omega
    rw [answer, List.reduceOption_cons_of_some, List.reduceOption_nil]
    constructor
    · rfl
    · exact Nat.succ_le_succ bounded
    · show strategy.nextSequenceId + 1 = _
      rw [next, UInt64.ofNat_add (strategy.ordersGenerated + 1)]
      rfl
    · rw [List.map_append, numbered, List.map_singleton, number,
        List.range'_concat]
      simp [Nat.add_comm]

/-- The run lemma: without a lost id the orders are numbered in sequence. -/
theorem run_counted (updates : List MarketDataUpdate)
    (few : updates.length < UInt64.size)
    (keep : ∀ update ∈ updates, KeepsNumbers minSpread update) :
    Counted minSpread updates.length (generatedOrders minSpread updates)
      (run onMarketData (newStrategy minSpread) updates) := by
  induction updates using List.reverseRecOn with
  | nil => exact ⟨rfl, Nat.le_refl 0, rfl, rfl⟩
  | append_singleton updates last induction =>
      rw [List.forall_mem_append, List.forall_mem_singleton] at keep
      rw [List.length_append, List.length_singleton] at few ⊢
      have counted := induction (Nat.lt_of_succ_lt few) keep.1
      rw [generatedOrders, outputs_concat, List.reduceOption_append,
        run_concat]
      exact counted.concat few keep.2

theorem run_minSpread (minSpread : Float)
    (updates : List MarketDataUpdate) :
    (run onMarketData (newStrategy minSpread) updates).minSpread =
      minSpread := by
  apply run_invariant onMarketData fun strategy =>
    strategy.minSpread = minSpread
  · rfl
  · intro strategy update same
    have answer := onMarketData_answer strategy update
    generalize onMarketData strategy update = result at answer ⊢
    cases answer with
    | narrow | unassigned | generated => exact same

/-- A call without an order that keeps the numbers changes neither counter. -/
theorem unanswered_of_keepsNumbers
    (keeps : KeepsNumbers strategy.minSpread update)
    (unanswered : (onMarketData strategy update).1 = none) :
    (onMarketData strategy update).2.nextSequenceId =
        strategy.nextSequenceId ∧
      (onMarketData strategy update).2.ordersGenerated =
        strategy.ordersGenerated := by
  by_cases narrow : Narrow strategy.minSpread update
  · rw [onMarketData_narrow narrow]
    exact ⟨rfl, rfl⟩
  · rcases onMarketData_generated narrow (keeps.resolve_left narrow) with
      ⟨order, _, answer⟩
    rw [answer] at unanswered
    contradiction

/--
The orders of a run are numbered without gaps exactly if every update of the
run has a narrow spread or a symbol that fits.
-/
theorem withoutGaps_iff (minSpread : Float)
    (updates : List MarketDataUpdate)
    (few : updates.length < UInt64.size) :
    WithoutGaps minSpread updates ↔
      ∀ update ∈ updates, KeepsNumbers minSpread update := by
  constructor
  · rintro ⟨unanswered, _, _⟩ update member
    by_contra loses
    rw [KeepsNumbers, not_or] at loses
    rcases List.append_of_mem member with ⟨earlier, later, rfl⟩
    have spread := run_minSpread minSpread earlier
    rw [← spread] at loses
    have exit := onMarketData_unassigned loses.1 loses.2
    have call :=
      unanswered
        (event onMarketData
          (run onMarketData (newStrategy minSpread) earlier) update)
        ((mem_events_iff onMarketData _ _ _).mpr
          ⟨earlier, update, later, rfl, rfl⟩)
    simp only [event, exit] at call
    exact absurd (call trivial).1 (by simp)
  · intro keep
    constructor
    · intro call member unanswered
      rcases (mem_events_iff onMarketData _ _ _).mp member with
        ⟨earlier, update, later, rfl, rfl⟩
      apply unanswered_of_keepsNumbers _ unanswered
      rw [run_minSpread]
      exact keep update (by simp)
    · intro seen front
      have fewer := front.length_le
      exact
        (run_counted seen (by omega) fun update member =>
          keep update (front.subset member)).numbered
    · apply List.Forall₂.imp _ (outputs_buyAtAsk minSpread updates)
      intro update answer buys order member
      exact (buys order member).symbol

/-- A market with a spread of one. -/
def wideUpdate (symbol : ByteString) : MarketDataUpdate where
  symbol := symbol
  bidPrice := 100.0
  bidSize := 100
  askPrice := 101.0
  askSize := 200

/-- Two orders for a symbol that fits are the first and the second. -/
theorem withoutGaps_short_symbols :
    WithoutGaps 0.01 [wideUpdate (text "AAPL"), wideUpdate (text "MSFT")] := by
  apply (withoutGaps_iff 0.01 _ (by decide)).mpr
  decide +kernel

/-- The first order behind a symbol that is too long has the number two. -/
theorem long_symbol_loses_number :
    ¬ ∀ minSpread updates, updates.length < UInt64.size →
      WithoutGaps minSpread updates := by
  intro always
  have withoutGaps :=
    always 0.01
      [wideUpdate (text "ABCDEFGHIJKLMNOPQ"), wideUpdate (text "AAPL")]
      (by decide)
  have numbers := withoutGaps.numbered _ (List.prefix_refl _)
  revert numbers
  decide +kernel

end Llgw.OrderNumbering
