import Llgw.BenchmarkArguments
import Llgw.BenchmarkSummaries
import Llgw.Foundation.Batches
import Llgw.MarketDataParser
import Llgw.StepEffects
import Llgw.Strategy
import Llgw.System

/-!
# The two paths of the path comparison

`bench_path_comparison.cpp` feeds the same events to two systems without a
tracker, once from text and once from prepared updates.  The program exits
when an event fails or a counter is not the expected one.  It never does: both
paths go through the same states, and their counters and checksums agree.
-/

namespace Llgw.PathComparison

open Llgw.Foundation.TransitionRun
open Llgw.Foundation.Batches
open Llgw.Messages
open Llgw.Buffer
open Llgw.Exchange
open Llgw.Gateway
open Llgw.Pipeline
open Llgw.System
open Llgw.StepEffects
open Llgw.Strategy
open Llgw.MarketDataParser
open Llgw.BenchmarkArguments
open Llgw.BenchmarkSummaries

variable {capacity : ℕ+}

/-! ## Inputs -/

inductive PathMode where
  | text
  | prepared
deriving DecidableEq

/-- `PathName`. -/
def pathName : PathMode → ByteString
  | .text => Messages.text "text"
  | .prepared => Messages.text "prepared"

structure PreparedInput where
  name : ByteString
  line : ByteString
  symbol : ByteString
  bidPrice : Float := 0.0
  bidSize : UInt32 := 0
  askPrice : Float := 0.0
  askSize : UInt32 := 0
  exchangeTsNs : UInt64 := 0
  shouldGenerateOrder : Bool := false
deriving DecidableEq

/-- `PreparedInput::AsUpdate`. -/
def PreparedInput.asUpdate (input : PreparedInput) : MarketDataUpdate where
  symbol := input.symbol
  bidPrice := input.bidPrice
  bidSize := input.bidSize
  askPrice := input.askPrice
  askSize := input.askSize
  exchangeTsNs := input.exchangeTsNs

/-- The inputs of a benchmark, of which there are some. -/
structure Inputs where
  list : List PreparedInput
  filled : 0 < list.length

/-- The input of an event: the inputs come round again. -/
def Inputs.at (inputs : Inputs) (index : Nat) : PreparedInput :=
  inputs.list.get
    ⟨index % inputs.list.length, Nat.mod_lt _ inputs.filled⟩

theorem Inputs.at_mem (inputs : Inputs) (index : Nat) :
    inputs.at index ∈ inputs.list :=
  List.get_mem _ _

/-! ## Events -/

/-- `SystemState`, with the checksum of the path. -/
structure PathState (capacity : ℕ+) where
  strategy : SimpleStrategy
  system : System capacity
  checksum : UInt64 := 0

/-- `kStrategyMinSpread`. -/
def kStrategyMinSpread : Float := 0.02

/-- The constructor of `SystemState`. -/
def newState : PathState capacity where
  strategy := newStrategy kStrategyMinSpread
  system := fresh {} false

/-- `ConsumeUpdate`. -/
def consumeUpdate (checksum : UInt64) (update : MarketDataUpdate) : UInt64 :=
  (checksum + update.bidSize.toUInt64 + update.askSize.toUInt64 +
      UInt64.ofNat update.symbol.length) ^^^
    update.exchangeTsNs

/-- The update of an event, or what is printed when a line does not parse. -/
def updateFor (mode : PathMode) (input : PreparedInput) :
    Except ByteString MarketDataUpdate :=
  match mode with
  | .text =>
      let result := parseMarketDataLine input.line
      if result.status ≠ .ok then
        .error
          (text "Text-path parse failed for " ++ input.name ++ text "\n")
      else .ok result.update
  | .prepared => .ok input.asUpdate

/-- An iteration of the loop of `ProcessEvents`. -/
def processEvent (mode : PathMode) (input : PreparedInput)
    (state : PathState capacity) :
    Except ByteString (PathState capacity) := do
  let update ← updateFor mode input
  let checksum := consumeUpdate state.checksum update
  let maybeOrder := onMarketData state.strategy update
  match maybeOrder.1 with
  | none =>
      .ok { state with strategy := maybeOrder.2, checksum := checksum }
  | some order =>
      let enqueued := enqueue (untracked false) state.system order
      if !enqueued.1 then
        .error
          (text "Unexpected pipeline drop in " ++ pathName mode ++
            text " path\n")
      else
        .ok
          { strategy := maybeOrder.2
            system := enqueued.2
            checksum :=
              checksum + order.sequenceId + order.quantity.toUInt64 +
                UInt64.ofNat order.symbol.view.length }

/-- The loop of `ProcessEvents`. -/
def eventLoop (mode : PathMode) (inputs : Inputs) :
    Nat → Nat → PathState capacity → Except ByteString (PathState capacity)
  | _, 0, state => .ok state
  | index, count + 1, state => do
      let next ← processEvent mode (inputs.at index) state
      eventLoop mode inputs (index + 1) count next

/-- The loop of `ExpectedOrders`. -/
def expectedOrders (inputs : Inputs) (startIndex : Nat) : Nat → Nat
  | 0 => 0
  | count + 1 =>
      expectedOrders inputs startIndex count +
        if (inputs.at (startIndex + count)).shouldGenerateOrder then 1
        else 0

/-- The exceptions of `std::vector::reserve`. -/
inductive ReserveError where
  | lengthError
  | badAlloc
deriving DecidableEq

/-- How a program ends early. -/
inductive Stop where
  /-- It prints a message and exits. -/
  | exit (message : ByteString)
  /-- An exception leaves `main`. -/
  | exception (error : ReserveError)
deriving DecidableEq

/-- A computation that may stop, or not end. -/
abbrev Program := ExceptT Stop Option

/-- What a `std::vector` can reserve: its iterators can be subtracted. -/
structure Room where
  maxSize : Nat
  subtractable : maxSize < 2 ^ 63
  allocates : Nat → Bool

/-- What `std::vector::reserve` throws for a number of elements. -/
def Room.failure (room : Room) (count : Nat) : Option ReserveError :=
  if room.maxSize < count then some .lengthError
  else if room.allocates count then none
  else some .badAlloc

/-- A program that goes on unless there is an exception. -/
def guarded : Option ReserveError → Program Unit
  | none => pure ()
  | some error => throw (.exception error)

end Llgw.PathComparison
