import Llgw.Foundation.FixedPoint
import Llgw.Foundation.Tables
import Llgw.PathComparison

/-!
# The CSV file of the path comparison

`WriteCsv` of `bench_path_comparison.cpp` writes a header and one row for
every trial.  The header and the rows are put together independently of each
other; here every column is given its meaning, and what was measured is read
back from the file by the names of the columns.
-/

namespace Llgw.PathCsv

open Float.Model
open Llgw.Foundation
open Llgw.Foundation.FixedPoint
open Llgw.Foundation.FloatGrid
open Llgw.Foundation.Tables
open Llgw.Messages
open Llgw.BenchmarkArguments
open Llgw.BenchmarkSummaries
open Llgw.PathComparison

/-! ## Writing -/

/-- `TrialPhase`. -/
def trialPhase (trialIndex : Nat) : ByteString :=
  if trialIndex = 1 then text "first_measured"
  else text "steady_state_candidate"

/-- A value that is written to the file. -/
inductive Cell where
  | count (number : Nat)
  | name (content : ByteString)
  | fixed (number : Float)

/--
A value as it is written, with `std::fixed` and three places.  What is not a
number is written with its sign bit, which a `Float` does not show.
-/
def Cell.print (signBit : Bool) : Cell → ByteString
  | .count number => Decimal.numeral number
  | .name content => content
  | .fixed number =>
      FixedPoint.print 3 (rounded 3 signBit number.toModel.unpack)

/-- The names of the columns, as `WriteCsv` writes them. -/
def header : List ByteString :=
  [text "trial", text "trial_phase", text "workload", text "input_count",
    text "stabilization_iterations", text "warmup_iterations",
    text "measured_iterations", text "batch_size", text "timed_batches",
    text "text_total_elapsed_ns",
    text "text_min_ns_per_event", text "text_p50_ns_per_event",
    text "text_p95_ns_per_event", text "text_p99_ns_per_event",
    text "text_max_ns_per_event", text "text_events_per_second",
    text "prepared_total_elapsed_ns",
    text "prepared_min_ns_per_event",
    text "prepared_p50_ns_per_event",
    text "prepared_p95_ns_per_event",
    text "prepared_p99_ns_per_event",
    text "prepared_max_ns_per_event",
    text "prepared_events_per_second",
    text "text_minus_prepared_p50_ns_per_event",
    text "text_minus_prepared_total_avg_ns_per_event",
    text "orders_per_event",
    text "text_orders_generated",
    text "text_orders_dropped",
    text "text_pipeline_rejected",
    text "text_gateway_rejected",
    text "prepared_orders_generated",
    text "prepared_orders_dropped",
    text "prepared_pipeline_rejected",
    text "prepared_gateway_rejected",
    text "text_checksum", text "prepared_checksum"]

/-- The values of a trial, as `WriteCsv` writes them. -/
def cells (config : BenchmarkConfig) (inputs : Inputs)
    (trial : TrialResult) : List Cell :=
  [.count trial.trialIndex,
    .name (trialPhase trial.trialIndex),
    .name config.workload,
    .count inputs.list.length,
    .count config.stabilizationIterations,
    .count config.warmupIterations,
    .count config.measuredIterations,
    .count config.batchSize,
    .count trial.timedBatches,
    .count trial.text.totalElapsedNs.toNat,
    .fixed trial.text.timing.minNsPerEvent,
    .fixed trial.text.timing.p50NsPerEvent,
    .fixed trial.text.timing.p95NsPerEvent,
    .fixed trial.text.timing.p99NsPerEvent,
    .fixed trial.text.timing.maxNsPerEvent,
    .fixed trial.text.timedEventsPerSecond,
    .count trial.prepared.totalElapsedNs.toNat,
    .fixed trial.prepared.timing.minNsPerEvent,
    .fixed trial.prepared.timing.p50NsPerEvent,
    .fixed trial.prepared.timing.p95NsPerEvent,
    .fixed trial.prepared.timing.p99NsPerEvent,
    .fixed trial.prepared.timing.maxNsPerEvent,
    .fixed trial.prepared.timedEventsPerSecond,
    .fixed trial.textMinusPreparedP50NsPerEvent,
    .fixed trial.textMinusPreparedTotalAvgNsPerEvent,
    .fixed trial.ordersPerEvent,
    .count trial.text.counters.ordersGenerated,
    .count trial.text.counters.ordersDropped,
    .count trial.text.counters.pipelineRejected,
    .count trial.text.counters.gatewayRejected,
    .count trial.prepared.counters.ordersGenerated,
    .count trial.prepared.counters.ordersDropped,
    .count trial.prepared.counters.pipelineRejected,
    .count trial.prepared.counters.gatewayRejected,
    .count trial.text.checksum.toNat,
    .count trial.prepared.checksum.toNat]

/-- The sign bits of the values in a row, by the names of their columns. -/
abbrev SignBits := ByteString → Bool

/-- The row of a trial. -/
def printRow (signBits : SignBits) (config : BenchmarkConfig)
    (inputs : Inputs) (trial : TrialResult) : List ByteString :=
  List.zipWith (fun name cell => cell.print (signBits name)) header
    (cells config inputs trial)

/-- The rows of the file, the first of which is the header. -/
def csvRows (signBits : Nat → SignBits) (config : BenchmarkConfig)
    (inputs : Inputs) (trials : List TrialResult) :
    List (List ByteString) :=
  header ::
    trials.zipIdx.map fun trial =>
      printRow (signBits trial.2) config inputs trial.1

/--
`WriteCsv`: what the file holds, or what is printed if it cannot be opened.
-/
def writeCsv (opened : Bool) (signBits : Nat → SignBits)
    (path : ByteString) (config : BenchmarkConfig) (inputs : Inputs)
    (trials : List TrialResult) : Except ByteString ByteString :=
  if !opened then
    .error (text "Failed to open CSV output: " ++ path ++ text "\n")
  else .ok (writeTable 44 10 (csvRows signBits config inputs trials))

/-! ## What the columns stand for -/

/-- What a row of the file is about. -/
structure Row where
  config : BenchmarkConfig
  inputs : Inputs
  trial : TrialResult

/-- The values of a column. -/
inductive Content where
  | count (figure : Row → Nat)
  | name (figure : Row → ByteString)
  | fixed (figure : Row → Float)

/-- The value of a column in a row. -/
def Content.cell : Content → Row → Cell
  | .count figure, row => .count (figure row)
  | .name figure, row => .name (figure row)
  | .fixed figure, row => .fixed (figure row)

structure Column where
  name : ByteString
  content : Content

/-- The durations of one path, under its own prefix. -/
def timingColumns (path : ByteString) (measured : Row → ModeMeasurement) :
    List Column :=
  [⟨path ++ text "_total_elapsed_ns",
      .count fun row => (measured row).totalElapsedNs.toNat⟩,
    ⟨path ++ text "_min_ns_per_event",
      .fixed fun row => (measured row).timing.minNsPerEvent⟩,
    ⟨path ++ text "_p50_ns_per_event",
      .fixed fun row => (measured row).timing.p50NsPerEvent⟩,
    ⟨path ++ text "_p95_ns_per_event",
      .fixed fun row => (measured row).timing.p95NsPerEvent⟩,
    ⟨path ++ text "_p99_ns_per_event",
      .fixed fun row => (measured row).timing.p99NsPerEvent⟩,
    ⟨path ++ text "_max_ns_per_event",
      .fixed fun row => (measured row).timing.maxNsPerEvent⟩,
    ⟨path ++ text "_events_per_second",
      .fixed fun row => (measured row).timedEventsPerSecond⟩]

/-- The counters of one path, under its own prefix. -/
def counterColumns (path : ByteString) (counted : Row → PathCounters) :
    List Column :=
  [⟨path ++ text "_orders_generated",
      .count fun row => (counted row).ordersGenerated⟩,
    ⟨path ++ text "_orders_dropped",
      .count fun row => (counted row).ordersDropped⟩,
    ⟨path ++ text "_pipeline_rejected",
      .count fun row => (counted row).pipelineRejected⟩,
    ⟨path ++ text "_gateway_rejected",
      .count fun row => (counted row).gatewayRejected⟩]

/-- The columns of the file. -/
def columns : List Column :=
  [⟨text "trial", .count (·.trial.trialIndex)⟩,
    ⟨text "trial_phase", .name fun row => trialPhase row.trial.trialIndex⟩,
    ⟨text "workload", .name (·.config.workload)⟩,
    ⟨text "input_count", .count (·.inputs.list.length)⟩,
    ⟨text "stabilization_iterations",
      .count (·.config.stabilizationIterations)⟩,
    ⟨text "warmup_iterations", .count (·.config.warmupIterations)⟩,
    ⟨text "measured_iterations", .count (·.config.measuredIterations)⟩,
    ⟨text "batch_size", .count (·.config.batchSize)⟩,
    ⟨text "timed_batches", .count (·.trial.timedBatches)⟩] ++
  timingColumns (pathName .text) (·.trial.text) ++
  timingColumns (pathName .prepared) (·.trial.prepared) ++
  [⟨text "text_minus_prepared_p50_ns_per_event",
      .fixed (·.trial.textMinusPreparedP50NsPerEvent)⟩,
    ⟨text "text_minus_prepared_total_avg_ns_per_event",
      .fixed (·.trial.textMinusPreparedTotalAvgNsPerEvent)⟩,
    ⟨text "orders_per_event", .fixed (·.trial.ordersPerEvent)⟩] ++
  counterColumns (pathName .text) (·.trial.text.counters) ++
  counterColumns (pathName .prepared) (·.trial.prepared.counters) ++
  [⟨text "text_checksum", .count (·.trial.text.checksum.toNat)⟩,
    ⟨text "prepared_checksum", .count (·.trial.prepared.checksum.toNat)⟩]

/-- The header names the columns in their order. -/
theorem header_eq : header = columns.map Column.name := by
  decide

/-- A row holds the values of the columns in the same order. -/
theorem cells_eq (config : BenchmarkConfig) (inputs : Inputs)
    (trial : TrialResult) :
    cells config inputs trial =
      columns.map fun column =>
        column.content.cell ⟨config, inputs, trial⟩ :=
  rfl

/-- A row is written column by column. -/
theorem printRow_eq (signBits : SignBits) (config : BenchmarkConfig)
    (inputs : Inputs) (trial : TrialResult) :
    printRow signBits config inputs trial =
      columns.map fun column =>
        (column.content.cell ⟨config, inputs, trial⟩).print
          (signBits column.name) := by
  rw [printRow, header_eq, cells_eq, List.zipWith_map, List.zipWith_self]

theorem names_distinct : (columns.map Column.name).Nodup := by
  decide

/-! ## Reading back -/

/-- A value that is read back. -/
inductive Figure where
  | count (number : Nat)
  | name (content : ByteString)
  | fixed (number : FixedNumber)

/-- A number that is spelled in digits. -/
def readCount (content : ByteString) : Option Nat :=
  if content ≠ [] ∧ ∀ byte ∈ content, 48 ≤ byte ∧ byte ≤ 57 then
    some (Decimal.value content)
  else none

theorem readCount_numeral (number : Nat) :
    readCount (Decimal.numeral number) = some number := by
  rw [readCount,
    if_pos ⟨Decimal.numeral_ne_nil _, fun _ => Decimal.mem_numeral⟩,
    Decimal.value_numeral]

/-- A value of a column. -/
def Content.read : Content → ByteString → Option Figure
  | .count _, content => (readCount content).map .count
  | .name _, content => some (.name content)
  | .fixed _, content => (FixedPoint.read 3 content).map .fixed

/-- The values of the column with this name, in the order of the rows. -/
def readCsv (file : ByteString) (column : Column) : Option (List Figure) :=
  (readColumn column.name (readTable 44 10 file)).bind
    (List.mapM column.content.read)

/-- What was printed is the number, to within half of the last place. -/
def Near (number : Float) (printed : FixedNumber) : Prop :=
  match number.toModel.unpack with
  | .notANumber => ∃ negative, printed = .notANumber negative
  | .infinity sign => printed = .infinity (sign == .negative)
  | .zero sign => printed = .finite (sign == .negative) 0
  | .finite sign mantissa exponent _ =>
      ∃ units,
        printed = .finite (sign == .negative) units ∧
          |(units : ℚ) - 10 ^ 3 * magnitude mantissa exponent| ≤ 1 / 2

/-- A value that is read back tells what was written. -/
inductive Tells : Cell → Figure → Prop where
  | count (number : Nat) : Tells (.count number) (.count number)
  | name (content : ByteString) : Tells (.name content) (.name content)
  | fixed {number : Float} {printed : FixedNumber}
      (near : Near number printed) :
      Tells (.fixed number) (.fixed printed)

theorem near_rounded (signBit : Bool) (number : Float) :
    Near number (rounded 3 signBit number.toModel.unpack) := by
  unfold Near
  cases number.toModel.unpack with
  | notANumber => exact ⟨signBit, rfl⟩
  | infinity sign => rfl
  | zero sign => rfl
  | finite sign mantissa exponent positive =>
      exact ⟨_, rfl, abs_unitsOf_sub_le 3 mantissa exponent⟩

theorem Content.read_print (content : Content) (row : Row)
    (signBit : Bool) :
    ∃ figure,
      content.read ((content.cell row).print signBit) = some figure ∧
        Tells (content.cell row) figure := by
  cases content with
  | count figure =>
      refine ⟨_, ?_, .count (figure row)⟩
      simp only [read, cell, Cell.print, readCount_numeral, Option.map_some]
  | name figure => exact ⟨_, rfl, .name _⟩
  | fixed figure =>
      refine ⟨_, ?_, .fixed (near_rounded signBit (figure row))⟩
      simp only [read, cell, Cell.print, FixedPoint.read_print,
        Option.map_some]

/-- The values of a column are read back, row by row. -/
theorem Content.mapM_read (content : Content) (rows : List (Row × Bool)) :
    ∃ figures,
      (rows.map fun row => (content.cell row.1).print row.2).mapM
            content.read =
          some figures ∧
        List.Forall₂ (fun row => Tells (content.cell row.1)) rows
          figures := by
  induction rows with
  | nil => exact ⟨[], rfl, .nil⟩
  | cons row rows induction =>
      rcases content.read_print row.1 row.2 with ⟨figure, first, tells⟩
      rcases induction with ⟨figures, later, all⟩
      refine ⟨figure :: figures, ?_, .cons tells all⟩
      rw [List.map_cons, List.mapM_cons, first, later]
      rfl

/-- Numbers are written without a comma and without an end of line. -/
theorem plain_print {cell : Cell}
    (named :
      ∀ content, cell = .name content →
        (44 : UInt8) ∉ content ∧ (10 : UInt8) ∉ content)
    (signBit : Bool) :
    (44 : UInt8) ∉ cell.print signBit ∧
      (10 : UInt8) ∉ cell.print signBit := by
  cases cell with
  | name content => exact named content rfl
  | count number =>
      constructor <;> intro member <;>
        exact absurd (Decimal.mem_numeral member).1 (by decide)
  | fixed number =>
      constructor <;> intro member <;>
        exact absurd (mem_print member) (by decide)

theorem trialPhase_plain (trialIndex : Nat) :
    (44 : UInt8) ∉ trialPhase trialIndex ∧
      (10 : UInt8) ∉ trialPhase trialIndex := by
  unfold trialPhase
  split_ifs <;> decide

theorem workload_plain :
    ∀ workload ∈ workloads,
      (44 : UInt8) ∉ workload ∧ (10 : UInt8) ∉ workload := by
  decide

theorem header_plain : Plain (44 : UInt8) 10 header where
  filled := List.cons_ne_nil _ _
  cells := by decide

/-- Only the phase of a trial and the workload are written by name. -/
theorem row_plain {config : BenchmarkConfig} (valid : Valid config)
    (signBits : SignBits) (inputs : Inputs) (trial : TrialResult) :
    Plain (44 : UInt8) 10 (printRow signBits config inputs trial) where
  filled := List.cons_ne_nil _ _
  cells := by
    rw [printRow_eq, List.forall_mem_map]
    intro column member
    apply plain_print
    intro content name
    have listed : Cell.name content ∈ cells config inputs trial := by
      rw [cells_eq, ← name]
      exact List.mem_map_of_mem member
    have named :
        content = trialPhase trial.trialIndex ∨
          content = config.workload := by
      simpa [cells] using listed
    rcases named with rfl | rfl
    · exact trialPhase_plain _
    · exact workload_plain _ valid.workload

/-! ## The file -/

section File

variable {config : BenchmarkConfig} (valid : Valid config)
  (signBits : Nat → SignBits) (inputs : Inputs) (trials : List TrialResult)
include valid

/-- The rows of a file that was written. -/
theorem readTable_csvRows :
    readTable 44 10
        (writeTable 44 10 (csvRows signBits config inputs trials)) =
      csvRows signBits config inputs trials := by
  apply readTable_writeTable (by decide)
  rw [csvRows, List.forall_mem_cons, List.forall_mem_map]
  exact ⟨header_plain, fun trial _ => row_plain valid _ inputs trial.1⟩

/-- A column of a file that was written. -/
theorem readCsv_csvRows {column : Column} (member : column ∈ columns) :
    ∃ figures,
      readCsv (writeTable 44 10 (csvRows signBits config inputs trials))
            column =
          some figures ∧
        List.Forall₂
          (fun trial =>
            Tells (column.content.cell ⟨config, inputs, trial⟩))
          trials figures := by
  rcases column.content.mapM_read
      (trials.zipIdx.map fun trial =>
        (⟨config, inputs, trial.1⟩, signBits trial.2 column.name)) with
    ⟨figures, read, tells⟩
  have found :
      readColumn column.name (csvRows signBits config inputs trials) =
        some
          (trials.zipIdx.map fun trial =>
            (column.content.cell ⟨config, inputs, trial.1⟩).print
              (signBits trial.2 column.name)) := by
    rw [csvRows, header_eq]
    simp only [printRow_eq]
    exact
      readColumn_of_records names_distinct
        (fun other (trial : TrialResult × Nat) =>
          (other.content.cell ⟨config, inputs, trial.1⟩).print
            (signBits trial.2 other.name))
        trials.zipIdx member
  refine ⟨figures, ?_, ?_⟩
  · rw [List.map_map] at read
    rw [readCsv, readTable_csvRows valid, found]
    exact read
  · have same : trials.zipIdx.map Prod.fst = trials :=
      List.zipIdx_map_fst 0 trials
    rw [List.forall₂_map_left_iff] at tells
    rw [← same, List.forall₂_map_left_iff]
    exact tells

end File

/--
The file of a run has 36 columns with distinct names and a row for every
trial, whatever the sign bits of values that are not numbers.  Under its own
name every column holds, in the order of the trials, what its name says: counts
and words exactly, and measured numbers to within half a thousandth.
-/
theorem csv_read_back {config : BenchmarkConfig} (valid : Valid config)
    (signBits : Nat → SignBits) (inputs : Inputs)
    (trials : List TrialResult) (path : ByteString) :
    ∃ file,
      writeCsv true signBits path config inputs trials = .ok file ∧
        columns.length = 36 ∧
        (columns.map Column.name).Nodup ∧
        (readTable 44 10 file).length = trials.length + 1 ∧
        (∀ row ∈ readTable 44 10 file, row.length = 36) ∧
        ∀ column ∈ columns,
          ∃ figures,
            readCsv file column = some figures ∧
              List.Forall₂
                (fun trial =>
                  Tells (column.content.cell ⟨config, inputs, trial⟩))
                trials figures := by
  refine ⟨_, rfl, rfl, names_distinct, ?_⟩
  rw [readTable_csvRows valid]
  refine ⟨?_, ?_, ?_⟩
  · rw [csvRows, List.length_cons, List.length_map, List.length_zipIdx]
  · rw [csvRows, List.forall_mem_cons, List.forall_mem_map]
    refine ⟨rfl, ?_⟩
    intro trial _
    rw [printRow_eq, List.length_map]
    rfl
  · intro column member
    exact readCsv_csvRows valid signBits inputs trials member

/-- One input, and two trials with nothing measured. -/
theorem csv_read_back_default :
    let inputs : Inputs :=
      { list :=
          [{ name := text "tight"
             line := text "A,1,1,1,1,0"
             symbol := text "A" }]
        filled := Nat.one_pos }
    let trials : List TrialResult := [{ trialIndex := 1 }, { trialIndex := 2 }]
    ∃ file,
      writeCsv true (fun _ _ => true) (text "paths.csv") {} inputs trials =
          .ok file ∧
        (readTable 44 10 file).length = 3 ∧
        ∀ column ∈ columns,
          ∃ figures,
            readCsv file column = some figures ∧
              List.Forall₂
                (fun trial =>
                  Tells (column.content.cell ⟨{}, inputs, trial⟩))
                trials figures := by
  intro inputs trials
  rcases
    csv_read_back Valid.default (fun _ _ => true) inputs trials
      (text "paths.csv") with
    ⟨file, written, _, _, rows, _, read⟩
  exact ⟨file, written, rows, read⟩

end Llgw.PathCsv
