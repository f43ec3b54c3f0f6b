import Llgw.Foundation.FloatArithmetic
import Llgw.Foundation.OrderStatistics

/-!
# The summaries of the path comparison

`Percentile`, `Summarize` and `BuildCrossTrialSummary` of
`bench_path_comparison.cpp`.  What they report of samples that are numbers are
order statistics: samples of fixed ranks, whatever the order in which the
samples were taken.
-/

namespace Llgw.BenchmarkSummaries

open Llgw.Foundation
open Llgw.Foundation.OrderStatistics

/-! ## Percentiles -/

/--
`Percentile`, of samples that are already sorted.  Its product fits into a
`std::size_t`: it takes more than `2 ^ 57` samples, an exabyte of them, to
make it wrap around.
-/
def percentile (sortedValues : List Float) (numerator denominator : Nat) :
    Float :=
  if sortedValues.isEmpty then 0.0
  else
    sortedValues.getD ((sortedValues.length - 1) * numerator / denominator)
      0.0

/-- `std::sort` of samples that are numbers. -/
def sortSamples (samples : List Float) : List Float :=
  samples.mergeSort fun left right => decide (left ≤ right)

structure TimingDistribution where
  minNsPerEvent : Float := 0.0
  p50NsPerEvent : Float := 0.0
  p95NsPerEvent : Float := 0.0
  p99NsPerEvent : Float := 0.0
  maxNsPerEvent : Float := 0.0

/-- `Summarize`. -/
def summarize (samples : List Float) : TimingDistribution :=
  if samples.isEmpty then {}
  else
    let samples := sortSamples samples
    { minNsPerEvent := samples.headD 0.0
      p50NsPerEvent := percentile samples 50 100
      p95NsPerEvent := percentile samples 95 100
      p99NsPerEvent := percentile samples 99 100
      maxNsPerEvent := samples.getLastD 0.0 }

/-! ## Measurements and trials -/

structure PathCounters where
  signalsSeen : Nat := 0
  ordersGenerated : Nat := 0
  ordersEnqueued : Nat := 0
  ordersDropped : Nat := 0
  ordersDrained : Nat := 0
  pipelineAccepted : Nat := 0
  pipelineRejected : Nat := 0
  gatewaySent : Nat := 0
  gatewayAccepted : Nat := 0
  gatewayRejected : Nat := 0
deriving DecidableEq

structure ModeMeasurement where
  totalElapsedNs : UInt64 := 0
  timing : TimingDistribution := {}
  timedEventsPerSecond : Float := 0.0
  counters : PathCounters := {}
  checksum : UInt64 := 0

structure TrialResult where
  trialIndex : Nat := 0
  timedBatches : Nat := 0
  text : ModeMeasurement := {}
  prepared : ModeMeasurement := {}
  textMinusPreparedP50NsPerEvent : Float := 0.0
  textMinusPreparedTotalAvgNsPerEvent : Float := 0.0
  ordersPerEvent : Float := 0.0

structure CrossTrialSummary where
  trialCount : Nat := 0
  textP50MedianNsPerEvent : Float := 0.0
  textP95MedianNsPerEvent : Float := 0.0
  textP99MedianNsPerEvent : Float := 0.0
  textEventsPerSecondMedian : Float := 0.0
  preparedP50MedianNsPerEvent : Float := 0.0
  preparedP95MedianNsPerEvent : Float := 0.0
  preparedP99MedianNsPerEvent : Float := 0.0
  preparedEventsPerSecondMedian : Float := 0.0
  pairedP50DeltaMedianNsPerEvent : Float := 0.0
  pairedTotalAvgDeltaMedianNsPerEvent : Float := 0.0
  ordersPerEventMedian : Float := 0.0

/-- One value of every trial, sorted, and their middle. -/
def medianOf (trials : List TrialResult) (value : TrialResult → Float) :
    Float :=
  percentile (sortSamples (trials.map value)) 50 100

/-- `BuildCrossTrialSummary`. -/
def buildCrossTrialSummary (trials : List TrialResult)
    (firstIndex : Nat) : CrossTrialSummary :=
  if trials.length ≤ firstIndex then {}
  else
    let trials := trials.drop firstIndex
    { trialCount := trials.length
      textP50MedianNsPerEvent := medianOf trials (·.text.timing.p50NsPerEvent)
      textP95MedianNsPerEvent := medianOf trials (·.text.timing.p95NsPerEvent)
      textP99MedianNsPerEvent := medianOf trials (·.text.timing.p99NsPerEvent)
      textEventsPerSecondMedian :=
        medianOf trials (·.text.timedEventsPerSecond)
      preparedP50MedianNsPerEvent :=
        medianOf trials (·.prepared.timing.p50NsPerEvent)
      preparedP95MedianNsPerEvent :=
        medianOf trials (·.prepared.timing.p95NsPerEvent)
      preparedP99MedianNsPerEvent :=
        medianOf trials (·.prepared.timing.p99NsPerEvent)
      preparedEventsPerSecondMedian :=
        medianOf trials (·.prepared.timedEventsPerSecond)
      pairedP50DeltaMedianNsPerEvent :=
        medianOf trials (·.textMinusPreparedP50NsPerEvent)
      pairedTotalAvgDeltaMedianNsPerEvent :=
        medianOf trials (·.textMinusPreparedTotalAvgNsPerEvent)
      ordersPerEventMedian := medianOf trials (·.ordersPerEvent) }

/-- The figures of a summary and the values of trials they are taken from. -/
def medians : List ((CrossTrialSummary → Float) × (TrialResult → Float)) :=
  [(CrossTrialSummary.textP50MedianNsPerEvent,
      (·.text.timing.p50NsPerEvent)),
    (CrossTrialSummary.textP95MedianNsPerEvent,
      (·.text.timing.p95NsPerEvent)),
    (CrossTrialSummary.textP99MedianNsPerEvent,
      (·.text.timing.p99NsPerEvent)),
    (CrossTrialSummary.textEventsPerSecondMedian,
      (·.text.timedEventsPerSecond)),
    (CrossTrialSummary.preparedP50MedianNsPerEvent,
      (·.prepared.timing.p50NsPerEvent)),
    (CrossTrialSummary.preparedP95MedianNsPerEvent,
      (·.prepared.timing.p95NsPerEvent)),
    (CrossTrialSummary.preparedP99MedianNsPerEvent,
      (·.prepared.timing.p99NsPerEvent)),
    (CrossTrialSummary.preparedEventsPerSecondMedian,
      (·.prepared.timedEventsPerSecond)),
    (CrossTrialSummary.pairedP50DeltaMedianNsPerEvent,
      (·.textMinusPreparedP50NsPerEvent)),
    (CrossTrialSummary.pairedTotalAvgDeltaMedianNsPerEvent,
      (·.textMinusPreparedTotalAvgNsPerEvent)),
    (CrossTrialSummary.ordersPerEventMedian, (·.ordersPerEvent))]

/-! ## Sorted samples -/

/-- A sample and its rank among samples that are numbers. -/
structure Ranked (samples : List Float) (rank : Nat) (value : Float) :
    Prop where
  sample : value ∈ samples
  statistic :
    OrderStatistic (samples.map FloatArithmetic.floatKey) rank
      (FloatArithmetic.floatKey value)

section Samples

variable {samples : List Float}
  (numbers : ∀ sample ∈ samples, ¬ sample.isNaN = true)
include numbers

theorem keys_sortSamples :
    (sortSamples samples).map FloatArithmetic.floatKey =
      (samples.map FloatArithmetic.floatKey).mergeSort fun left right =>
        decide (left ≤ right) := by
  apply List.map_mergeSort
  intro left leftMember right rightMember
  apply Bool.decide_congr
  rw [FloatArithmetic.le_iff_floatKey]
  exact
    ⟨fun ordered => ordered.2.2, fun ordered =>
      ⟨numbers left leftMember, numbers right rightMember, ordered⟩⟩

/-- A sorted sample has its position as rank. -/
theorem ranked_sortSamples {rank : Nat} (bound : rank < samples.length) :
    Ranked samples rank ((sortSamples samples).getD rank 0.0) := by
  have same : (sortSamples samples).Perm samples := List.mergeSort_perm _ _
  have inside : rank < (sortSamples samples).length :=
    same.length_eq ▸ bound
  have position :
      (sortSamples samples).getD rank 0.0 =
        (sortSamples samples)[rank] :=
    List.getD_eq_getElem _ _ inside
  have sorted :
      ((sortSamples samples).map FloatArithmetic.floatKey).SortedLE := by
    rw [keys_sortSamples numbers]
    exact List.sortedLE_mergeSort
  have keyed :
      rank < ((sortSamples samples).map FloatArithmetic.floatKey).length := by
    rw [List.length_map]
    exact inside
  rw [position]
  constructor
  · exact same.mem_iff.mp (List.getElem_mem inside)
  · have statistic := OrderStatistic.of_sorted sorted keyed
    rw [List.getElem_map] at statistic
    exact statistic.perm (same.map _)

/-- A percentile of sorted samples has the rank it asks for. -/
theorem ranked_percentile (filled : 0 < samples.length)
    {numerator denominator : Nat} (part : numerator ≤ denominator)
    (whole : 0 < denominator) :
    Ranked samples ((samples.length - 1) * numerator / denominator)
      (percentile (sortSamples samples) numerator denominator) := by
  have length : (sortSamples samples).length = samples.length :=
    (List.mergeSort_perm _ _).length_eq
  have some : ¬ (sortSamples samples).isEmpty = true := by
    rw [List.isEmpty_iff_length_eq_zero, length]
    exact filled.ne'
  have inside :
      (samples.length - 1) * numerator / denominator < samples.length := by
    calc
      (samples.length - 1) * numerator / denominator ≤
          (samples.length - 1) * denominator / denominator :=
        Nat.div_le_div_right (Nat.mul_le_mul_left _ part)
      _ = samples.length - 1 := Nat.mul_div_cancel _ whole
      _ < samples.length := Nat.sub_lt filled Nat.one_pos
  rw [percentile, if_neg some, length]
  exact ranked_sortSamples numbers inside

end Samples

/-! ## What the summaries report -/

/-- The five samples that a distribution consists of. -/
structure Summarized (samples : List Float) (timing : TimingDistribution) :
    Prop where
  minimum : Ranked samples 0 timing.minNsPerEvent
  p50 :
    Ranked samples ((samples.length - 1) * 50 / 100) timing.p50NsPerEvent
  p95 :
    Ranked samples ((samples.length - 1) * 95 / 100) timing.p95NsPerEvent
  p99 :
    Ranked samples ((samples.length - 1) * 99 / 100) timing.p99NsPerEvent
  maximum : Ranked samples (samples.length - 1) timing.maxNsPerEvent

theorem summarize_summarized {samples : List Float}
    (numbers : ∀ sample ∈ samples, ¬ sample.isNaN = true)
    (filled : 0 < samples.length) :
    Summarized samples (summarize samples) := by
  have length : (sortSamples samples).length = samples.length :=
    (List.mergeSort_perm _ _).length_eq
  have some : ¬ samples.isEmpty = true := by
    rw [List.isEmpty_iff_length_eq_zero]
    exact filled.ne'
  rw [summarize, if_neg some]
  constructor
  · show Ranked samples 0 ((sortSamples samples).headD 0.0)
    rw [List.headD_eq_getD]
    exact ranked_sortSamples numbers filled
  · exact ranked_percentile numbers filled (by decide) (by decide)
  · exact ranked_percentile numbers filled (by decide) (by decide)
  · exact ranked_percentile numbers filled (by decide) (by decide)
  · show Ranked samples _ ((sortSamples samples).getLastD 0.0)
    rw [List.getLastD_eq_getLast?, List.getLast?_eq_getElem?,
      ← List.getD_eq_getElem?_getD, length]
    exact ranked_sortSamples numbers (Nat.sub_lt filled Nat.one_pos)

/-- A sample of a lower rank is not greater. -/
theorem Ranked.le {samples : List Float}
    (numbers : ∀ sample ∈ samples, ¬ sample.isNaN = true)
    {rank rank' : Nat} {value value' : Float}
    (first : Ranked samples rank value)
    (second : Ranked samples rank' value') (ranks : rank ≤ rank') :
    value ≤ value' := by
  rw [FloatArithmetic.le_iff_floatKey]
  exact
    ⟨numbers _ first.sample, numbers _ second.sample,
      first.statistic.le_of_le second.statistic ranks⟩

/-- Samples of one rank are the same number, in whatever order they came. -/
theorem Ranked.key_eq {samples others : List Float} {rank : Nat}
    {value value' : Float} (first : Ranked samples rank value)
    (same : samples.Perm others) (second : Ranked others rank value') :
    FloatArithmetic.floatKey value = FloatArithmetic.floatKey value' :=
  (first.statistic.perm (same.map _)).unique second.statistic

/-- The numbers of a distribution, in their order. -/
def timingKeys (timing : TimingDistribution) : List ℤ :=
  [timing.minNsPerEvent, timing.p50NsPerEvent, timing.p95NsPerEvent,
    timing.p99NsPerEvent, timing.maxNsPerEvent].map
    FloatArithmetic.floatKey

/-- The distribution does not depend on the order of the batches. -/
theorem timingKeys_perm {samples others : List Float}
    (numbers : ∀ sample ∈ samples, ¬ sample.isNaN = true)
    (filled : 0 < samples.length) (same : samples.Perm others) :
    timingKeys (summarize samples) = timingKeys (summarize others) := by
  have otherNumbers : ∀ sample ∈ others, ¬ sample.isNaN = true := by
    intro sample member
    exact numbers sample (same.mem_iff.mpr member)
  have first := summarize_summarized numbers filled
  have second :=
    summarize_summarized otherNumbers (same.length_eq ▸ filled)
  rw [timingKeys, timingKeys]
  simp only [List.map_cons, List.map_nil, List.cons.injEq, and_true]
  refine
    ⟨first.minimum.key_eq same second.minimum, first.p50.key_eq same ?_,
      first.p95.key_eq same ?_, first.p99.key_eq same ?_,
      first.maximum.key_eq same ?_⟩
  · exact same.length_eq ▸ second.p50
  · exact same.length_eq ▸ second.p95
  · exact same.length_eq ▸ second.p99
  · exact same.length_eq ▸ second.maximum

/-- A distribution whose figures do not decrease. -/
structure Increasing (timing : TimingDistribution) : Prop where
  p50 : timing.minNsPerEvent ≤ timing.p50NsPerEvent
  p95 : timing.p50NsPerEvent ≤ timing.p95NsPerEvent
  p99 : timing.p95NsPerEvent ≤ timing.p99NsPerEvent
  maximum : timing.p99NsPerEvent ≤ timing.maxNsPerEvent

/--
Of samples that are numbers, if there is one, `Summarize` reports five samples
of fixed ranks, in increasing order and whatever the order in which they were
taken.
-/
theorem summarize_ranked (samples : List Float)
    (numbers : ∀ sample ∈ samples, ¬ sample.isNaN = true)
    (filled : samples ≠ []) :
    Summarized samples (summarize samples) ∧
      Increasing (summarize samples) ∧
      ∀ others,
        samples.Perm others →
          timingKeys (summarize samples) = timingKeys (summarize others) := by
  have some := List.length_pos_iff.mpr filled
  have summarized := summarize_summarized numbers some
  refine
    ⟨summarized, ?_, fun others same => timingKeys_perm numbers some same⟩
  constructor
  · exact summarized.minimum.le numbers summarized.p50 (Nat.zero_le _)
  · exact summarized.p50.le numbers summarized.p95 (by omega)
  · exact summarized.p95.le numbers summarized.p99 (by omega)
  · exact summarized.p99.le numbers summarized.maximum (by omega)

theorem summarize_ranked_three :
    timingKeys (summarize [3.0, 1.0, 2.0]) =
      timingKeys (summarize [1.0, 2.0, 3.0]) := by
  have numbers :
      ∀ sample ∈ ([3.0, 1.0, 2.0] : List Float),
        ¬ sample.isNaN = true := by
    decide +kernel
  have same : ([3.0, 1.0, 2.0] : List Float).Perm [1.0, 2.0, 3.0] := by
    exact (List.Perm.swap _ _ _).trans (.cons _ (.swap _ _ _))
  exact
    (summarize_ranked [3.0, 1.0, 2.0] numbers (by decide)).2.2 _ same

/--
Where the values are numbers, every median of `BuildCrossTrialSummary` is the
value of one of the trials from the first index on: that of the lower middle
rank.
-/
theorem crossTrial_ranked (trials : List TrialResult) {firstIndex : Nat}
    (some : firstIndex < trials.length)
    {median : CrossTrialSummary → Float} {value : TrialResult → Float}
    (pair : (median, value) ∈ medians)
    (numbers :
      ∀ trial ∈ trials.drop firstIndex, ¬ (value trial).isNaN = true) :
    Ranked ((trials.drop firstIndex).map value)
      ((trials.length - firstIndex - 1) / 2)
      (median (buildCrossTrialSummary trials firstIndex)) := by
  have reported :
      median (buildCrossTrialSummary trials firstIndex) =
        medianOf (trials.drop firstIndex) value := by
    rw [buildCrossTrialSummary, if_neg some.not_ge]
    simp only [medians, List.mem_cons, Prod.mk.injEq, List.not_mem_nil,
      or_false] at pair
    rcases pair with
      ⟨rfl, rfl⟩ | ⟨rfl, rfl⟩ | ⟨rfl, rfl⟩ | ⟨rfl, rfl⟩ | ⟨rfl, rfl⟩ |
        ⟨rfl, rfl⟩ | ⟨rfl, rfl⟩ | ⟨rfl, rfl⟩ | ⟨rfl, rfl⟩ | ⟨rfl, rfl⟩ |
        ⟨rfl, rfl⟩ <;> rfl
  have length :
      ((trials.drop firstIndex).map value).length =
        trials.length - firstIndex := by
    rw [List.length_map, List.length_drop]
  have middle :
      (trials.length - firstIndex - 1) * 50 / 100 =
        (trials.length - firstIndex - 1) / 2 := by
    omega
  have ranked :=
    ranked_percentile (List.forall_mem_map.mpr numbers)
      (show 0 < ((trials.drop firstIndex).map value).length by omega)
      (show 50 ≤ 100 by decide) (by decide)
  rw [length, middle] at ranked
  rw [reported]
  exact ranked

/-- The order rates of two trials behind a first one that is left out. -/
theorem crossTrial_ranked_twoTrials :
    let trials : List TrialResult :=
      [{}, { ordersPerEvent := 1.0 }, { ordersPerEvent := 0.5 }]
    Ranked ((trials.drop 1).map fun trial => trial.ordersPerEvent)
      ((trials.length - 1 - 1) / 2)
      (buildCrossTrialSummary trials 1).ordersPerEventMedian := by
  intro trials
  have pair :
      (CrossTrialSummary.ordersPerEventMedian,
        fun trial : TrialResult => trial.ordersPerEvent) ∈ medians := by
    simp only [medians, List.mem_cons, true_or, or_true]
  have numbers :
      ∀ trial ∈ trials.drop 1, ¬ trial.ordersPerEvent.isNaN = true := by
    decide +kernel
  exact crossTrial_ranked trials (by decide) pair numbers

end Llgw.BenchmarkSummaries
