import Llgw.EndToEnd
import Llgw.RiskTightening

/-!
# Tightening the configuration of the program

`main` has two settings that keep orders back: the spread from which on the
strategy buys, and the limits of the risk manager.  When both are tightened
and the same file is replayed, orders only disappear, and the others keep their
symbols, prices and quantities.  Their ids move up, since the strategy numbers
what it generates.
-/

namespace Llgw.MainTightening

open Llgw.Foundation
open Llgw.Foundation.TransitionRun
open Llgw.Foundation.KeyedStore
open Llgw.Messages
open Llgw.Risk
open Llgw.RiskMonotone
open Llgw.RiskTightening
open Llgw.Pipeline
open Llgw.System
open Llgw.Strategy
open Llgw.MarketDataParser
open Llgw.FeedReplay
open Llgw.EndToEnd

variable {capacity : ℕ+}

/-! ## Orders without their ids -/

/-- An order without its id. -/
def anonymous (order : OrderRequest) : OrderRequest :=
  { order with sequenceId := 0 }

/-- The order that an update calls for from some spread on. -/
def offer (minSpread : Float) (update : MarketDataUpdate) :
    Option OrderRequest :=
  if update.askPrice - update.bidPrice + kPriceEpsilon < minSpread then none
  else if (FixedSymbol.assign update.symbol).1 then
    some
      { symbol := (FixedSymbol.assign update.symbol).2
        side := .buy
        price := update.askPrice
        quantity := 10 }
  else none

theorem onMarketData_anonymous (strategy : SimpleStrategy)
    (update : MarketDataUpdate) :
    (onMarketData strategy update).1.map anonymous =
      offer strategy.minSpread update := by
  simp only [onMarketData, offer]
  split_ifs with narrow unassigned assigned <;> first | rfl | simp_all

theorem onMarketData_minSpread (strategy : SimpleStrategy)
    (update : MarketDataUpdate) :
    (onMarketData strategy update).2.minSpread = strategy.minSpread := by
  simp only [onMarketData]
  split_ifs <;> rfl

/-- But for their ids, orders depend on their own updates only. -/
theorem outputs_anonymous (strategy : SimpleStrategy)
    (updates : List MarketDataUpdate) :
    (outputs onMarketData strategy updates).reduceOption.map anonymous =
      updates.filterMap (offer strategy.minSpread) := by
  induction updates generalizing strategy with
  | nil => rfl
  | cons update rest induction =>
      have later := induction (onMarketData strategy update).2
      rw [onMarketData_minSpread] at later
      have first := onMarketData_anonymous strategy update
      rw [outputs_cons, List.filterMap_cons, ← first, ← later]
      cases (onMarketData strategy update).1 with
      | none => rw [List.reduceOption_cons_of_none]; rfl
      | some order => rw [List.reduceOption_cons_of_some]; rfl

theorem generatedOrders_anonymous (minSpread : Float)
    (updates : List MarketDataUpdate) :
    (generatedOrders minSpread updates).map anonymous =
      updates.filterMap (offer minSpread) :=
  outputs_anonymous (newStrategy minSpread) updates

/-- A function that answers less often selects fewer values. -/
theorem filterMap_sublist {Value Result : Type*}
    {first second : Value → Option Result}
    (less : ∀ value, first value = none ∨ first value = second value)
    (values : List Value) :
    (values.filterMap first).Sublist (values.filterMap second) := by
  induction values with
  | nil => exact .slnil
  | cons value rest induction =>
      rw [List.filterMap_cons, List.filterMap_cons]
      rcases less value with absent | same
      · rw [absent]
        cases second value with
        | none => exact induction
        | some result => exact induction.cons result
      · rw [same]
        cases second value with
        | none => exact induction
        | some result => exact induction.cons_cons result

/-- From a wider spread on there are fewer offers. -/
theorem offer_of_wider {minSpread wider : Float}
    (wide : minSpread ≤ wider) (update : MarketDataUpdate) :
    offer wider update = none ∨
      offer wider update = offer minSpread update := by
  by_cases narrow :
      update.askPrice - update.bidPrice + kPriceEpsilon < wider
  · left
    rw [offer, if_pos narrow]
  · right
    have wideEnough :
        ¬ update.askPrice - update.bidPrice + kPriceEpsilon < minSpread :=
      fun less => narrow (FloatArithmetic.lt_of_lt_of_le less wide)
    rw [offer, offer, if_neg narrow, if_neg wideEnough]

theorem generatedOrders_sublist {minSpread wider : Float}
    (wide : minSpread ≤ wider) (updates : List MarketDataUpdate) :
    ((generatedOrders wider updates).map anonymous).Sublist
      ((generatedOrders minSpread updates).map anonymous) := by
  rw [generatedOrders_anonymous, generatedOrders_anonymous]
  exact filterMap_sublist (offer_of_wider wide) updates

/-! ## Orders in the order of the feed -/

/-- The ids go up, so the orders stand in the order they were generated in. -/
def Ascending (orders : List OrderRequest) : Prop :=
  orders.Pairwise fun first second => first.sequenceId < second.sequenceId

/-- The step lemma: an order gets an id above all that were used. -/
theorem ascending_concat {used : Nat} {orders : List OrderRequest}
    {strategy : SimpleStrategy} (numbered : Numbered used orders strategy)
    (few : used + 1 < UInt64.size) (ascending : Ascending orders)
    (update : MarketDataUpdate) :
    Ascending (orders ++ [(onMarketData strategy update).1].reduceOption) := by
  have answer := onMarketData_answer strategy update
  generalize onMarketData strategy update = result at answer ⊢
  cases answer with
  | narrow | unassigned =>
      rw [List.reduceOption_cons_of_none, List.reduceOption_nil,
        List.append_nil]
      exact ascending
  | generated numberedNext _ =>
      rw [List.reduceOption_cons_of_some, List.reduceOption_nil, Ascending,
        List.pairwise_append]
      refine ⟨ascending, List.pairwise_singleton _ _, ?_⟩
      intro old past new last
      rw [List.mem_singleton.mp last, numberedNext, numbered.next,
        UInt64.lt_iff_toNat_lt, UInt64.toNat_ofNat_of_lt' few]
      exact Nat.lt_succ_of_le (numbered.bounded old past)

/-- The run lemma: the ids of a run go up while they last. -/
theorem generatedOrders_ascending (minSpread : Float)
    (updates : List MarketDataUpdate)
    (few : updates.length < UInt64.size) :
    Ascending (generatedOrders minSpread updates) := by
  induction updates using List.reverseRecOn with
  | nil => exact List.Pairwise.nil
  | append_singleton updates last induction =>
      rw [List.length_append, List.length_singleton] at few
      have fewer := Nat.lt_of_succ_lt few
      rcases (run_issued minSpread updates fewer).numbered with
        ⟨used, bound, numbered⟩
      have enough : used + 1 < UInt64.size :=
        Nat.lt_of_le_of_lt (Nat.succ_le_succ bound) few
      rw [generatedOrders, outputs_concat, List.reduceOption_append]
      exact ascending_concat numbered enough (induction fewer) last

/-! ## The risk check -/

/-- The risk check does not look at the id of an order. -/
theorem passesCheck_anonymous (limits : RiskLimits)
    (order : OrderRequest) :
    passesCheck limits (anonymous order) = passesCheck limits order := by
  rw [Bool.eq_iff_iff, passesCheck_iff, passesCheck_iff]
  rfl

theorem filter_anonymous (limits : RiskLimits)
    (orders : List OrderRequest) :
    (orders.filter (passesCheck limits)).map anonymous =
      (orders.map anonymous).filter (passesCheck limits) := by
  have blind : passesCheck limits ∘ anonymous = passesCheck limits :=
    funext (passesCheck_anonymous limits)
  rw [List.filter_map, blind]

/-- Tighter limits let fewer orders through. -/
theorem filter_sublist {limits wider : RiskLimits}
    (wide : Wider limits wider) {fewer more : List OrderRequest}
    (sublist : (fewer.map anonymous).Sublist (more.map anonymous)) :
    ((fewer.filter (passesCheck limits)).map anonymous).Sublist
      ((more.filter (passesCheck wider)).map anonymous) := by
  rw [filter_anonymous, filter_anonymous]
  refine (sublist.filter (passesCheck limits)).trans ?_
  apply List.monotone_filter_right
  intro order
  rw [passesCheck_iff, passesCheck_iff]
  exact passes_of_wider wide

/-! ## The program -/

/--
What is left of the program when the strategy has generated these orders:
they were offered to the buffer, and it was drained or not.
-/
structure Left (limits : RiskLimits) (orders : List OrderRequest)
    (drained : Bool) (outcome : Outcome capacity) : Prop where
  generated : outcome.strategy.ordersGenerated = orders.length
  enqueued :
    outcome.system.pipeline.ordersEnqueued = min orders.length capacity
  dropped :
    outcome.system.pipeline.ordersDroppedOnEnqueue =
      orders.length - min orders.length capacity
  active :
    Holds OrderRequest.sequenceId
      (if drained then (orders.take capacity).filter (passesCheck limits)
      else [])
      outcome.system.exchange.activeOrders

/-- What a file alone decides: the lines delivered and how the program ends. -/
structure Course where
  delivered : List ByteString
  exitCode : Nat
  replayResult : FeedReplayResult
  drained : Bool

/-- Whatever the settings, the program takes the course of its file. -/
structure Follows (course : Course) (limits : RiskLimits)
    (minSpread : Float) (outcome : Outcome capacity) : Prop where
  few : course.delivered.length < UInt64.size
  exitCode : outcome.exitCode = course.exitCode
  replayResult : outcome.replayResult = course.replayResult
  left :
    Left limits
      (generatedOrders minSpread (course.delivered.map updateOf))
      course.drained outcome

section Courses

variable (limits : RiskLimits) (minSpread : Float)

theorem mainWith_noFile :
    Follows ⟨[], 1, {}, false⟩ limits minSpread
      (mainWith capacity limits minSpread none) where
  few := by decide
  exitCode := rfl
  replayResult := rfl
  left :=
    { generated := rfl
      enqueued := (Nat.zero_min _).symm
      dropped := rfl
      active := .empty }

theorem mainWith_parses {lines : List ByteString}
    (few : lines.length < UInt64.size)
    (parse : ∀ line ∈ lines, Parses line) :
    Follows
      ⟨lines, 0,
        { status := .ok
          linesRead := lines.length
          updatesParsed := lines.length }, true⟩
      limits minSpread
      (mainWith capacity limits minSpread (some lines)) := by
  have delivered : Delivered limits _ (_ : Outcome capacity) :=
    mainWith_of_parses limits minSpread lines few parse
  constructor
  · exact few
  · simp only [mainWith, replay_of_parses onUpdate _ parse]
    rfl
  · simp only [mainWith, replay_of_parses onUpdate _ parse]
    rfl
  · exact
      { generated := delivered.generated
        enqueued := delivered.enqueued
        dropped := delivered.dropped
        active := delivered.active }

theorem mainWith_error {lines rest : List ByteString} {line : ByteString}
    (few : lines.length < UInt64.size)
    (parse : ∀ line ∈ lines, Parses line) (bad : ¬ Parses line) :
    Follows
      ⟨lines, 1,
        { status := .parseError
          linesRead := lines.length + 1
          updatesParsed := lines.length
          errorLine := lines.length + 1
          parseStatus := (parseMarketDataLine line).status }, false⟩
      limits minSpread
      (mainWith capacity limits minSpread
        (some (lines ++ line :: rest))) := by
  have filled : Filled limits _ (_ : System capacity) :=
    deliver_filled limits minSpread lines few
  have issued := run_issued minSpread (lines.map updateOf)
    (by rwa [List.length_map])
  have failed : FeedReplayStatus.parseError ≠ .ok := nofun
  simp only [mainWith, replay_of_error onUpdate _ parse bad,
    deliver_onUpdate]
  rw [if_pos failed]
  constructor
  · exact few
  · rfl
  · rfl
  · constructor
    · exact issued.generated
    · exact filled.enqueued
    · exact filled.dropped
    · simp only [Bool.false_eq_true, if_false, filled.exchange]
      exact Holds.empty

/-- The course of the program is settled by its file. -/
theorem exists_course (capacity : ℕ+) (file : Option (List ByteString))
    (few : ∀ lines ∈ file, lines.length < UInt64.size) :
    ∃ course, ∀ limits minSpread,
      Follows course limits minSpread
        (mainWith capacity limits minSpread file) := by
  cases file with
  | none => exact ⟨_, mainWith_noFile⟩
  | some lines =>
      have few := few lines rfl
      by_cases parse : ∀ line ∈ lines, Parses line
      · exact ⟨_, fun limits minSpread =>
          mainWith_parses limits minSpread few parse⟩
      · obtain ⟨before, line, after, rfl, parses, bad⟩ :=
          exists_first_error parse
        have fewer : before.length < UInt64.size := by
          rw [List.length_append] at few
          omega
        exact ⟨_, fun limits minSpread =>
          mainWith_error limits minSpread fewer parses bad⟩

end Courses

/-- One outcome of the program with no more orders than another. -/
structure NoMore (strict loose : Outcome capacity) : Prop where
  exitCode : strict.exitCode = loose.exitCode
  replayResult : strict.replayResult = loose.replayResult
  generated :
    strict.strategy.ordersGenerated ≤ loose.strategy.ordersGenerated
  enqueued :
    strict.system.pipeline.ordersEnqueued ≤
      loose.system.pipeline.ordersEnqueued
  dropped :
    strict.system.pipeline.ordersDroppedOnEnqueue ≤
      loose.system.pipeline.ordersDroppedOnEnqueue
  active :
    loose.system.pipeline.ordersDroppedOnEnqueue = 0 →
      ∃ fewer more,
        Holds OrderRequest.sequenceId fewer
            strict.system.exchange.activeOrders ∧
          Holds OrderRequest.sequenceId more
            loose.system.exchange.activeOrders ∧
          Ascending fewer ∧ Ascending more ∧
          (fewer.map anonymous).Sublist (more.map anonymous)

/--
With at least as wide a spread and at most as wide limits, and the same file,
the program ends alike and generates, enqueues and drops no more orders.  If
the looser run drops none, the list of the active orders in the order of the
feed, which is that of their ids, only loses elements, but for the ids.
-/
theorem mainWith_tightened (capacity : ℕ+) {limits wider : RiskLimits}
    (wideLimits : Wider limits wider) {minSpread narrower : Float}
    (wideSpread : narrower ≤ minSpread)
    (file : Option (List ByteString))
    (few : ∀ lines ∈ file, lines.length < UInt64.size) :
    NoMore (mainWith capacity limits minSpread file)
      (mainWith capacity wider narrower file) := by
  obtain ⟨course, follows⟩ := exists_course capacity file few
  have strict := follows limits minSpread
  have loose := follows wider narrower
  have sublist :=
    generatedOrders_sublist wideSpread (course.delivered.map updateOf)
  have length := sublist.length_le
  rw [List.length_map, List.length_map] at length
  have few : (course.delivered.map updateOf).length < UInt64.size := by
    rw [List.length_map]
    exact strict.few
  have ascending (spread : Float) :=
    generatedOrders_ascending spread (course.delivered.map updateOf) few
  constructor
  · exact strict.exitCode.trans loose.exitCode.symm
  · exact strict.replayResult.trans loose.replayResult.symm
  · rw [strict.left.generated, loose.left.generated]
    exact length
  · rw [strict.left.enqueued, loose.left.enqueued]
    exact min_le_min_right _ length
  · rw [strict.left.dropped, loose.left.dropped]
    omega
  · intro kept
    refine ⟨_, _, strict.left.active, loose.left.active, ?_⟩
    rw [loose.left.dropped] at kept
    have room :
        (generatedOrders narrower
          (course.delivered.map updateOf)).length ≤ capacity := by
      omega
    rw [List.take_of_length_le room,
      List.take_of_length_le (length.trans room)]
    split_ifs
    · exact
        ⟨(ascending minSpread).filter _, (ascending narrower).filter _,
          filter_sublist wideLimits sublist⟩
    · exact ⟨.nil, .nil, .slnil⟩

/-- A spread of five cents and orders of at most 100 shares, on two lines. -/
theorem mainWith_tightened_sampleFeed :
    NoMore
      (mainWith 16 { mainLimits with maxOrderQuantity := 100 } 0.05
        (some sampleFeed))
      (main (some sampleFeed)) := by
  have wide : Wider { mainLimits with maxOrderQuantity := 100 } mainLimits :=
    { quantity := by decide
      notional := by decide
      allowlist := Or.inr ⟨by decide, by decide⟩ }
  have few : ∀ lines ∈ some sampleFeed, lines.length < UInt64.size := by
    rintro lines ⟨⟩
    decide
  exact mainWith_tightened 16 wide (by decide) (some sampleFeed) few

end Llgw.MainTightening
