import Mathlib.Data.List.Sort

/-!
# Order statistics

The value of some rank among finitely many samples of a linear order, counted
from zero and with repetitions.  It is unique and does not depend on the order
of the samples; in a sorted list it is the element at that position.
-/

namespace Llgw.Foundation.OrderStatistics

universe u

variable {Value : Type u} [LinearOrder Value]

/-- The sample with so many samples in front of it when they are sorted. -/
structure OrderStatistic (samples : List Value) (rank : Nat)
    (value : Value) : Prop where
  member : value ∈ samples
  below : rank < samples.countP fun sample => sample ≤ value
  above :
    samples.length ≤ rank + samples.countP fun sample => value ≤ sample

variable {samples : List Value} {rank rank' : Nat} {value value' : Value}

/-- A sample of a lower rank is not greater. -/
theorem OrderStatistic.le_of_le (first : OrderStatistic samples rank value)
    (second : OrderStatistic samples rank' value') (ranks : rank ≤ rank') :
    value ≤ value' := by
  by_contra greater
  rw [not_le] at greater
  have apart :
      samples.countP (fun sample => sample ≤ value') ≤
        samples.countP fun sample => ¬ decide (value ≤ sample) = true := by
    apply List.countP_mono_left
    intro sample _ below
    rw [decide_eq_true_eq] at below ⊢
    rw [decide_eq_true_eq, not_le]
    exact below.trans_lt greater
  have parts :=
    List.length_eq_countP_add_countP (fun sample => decide (value ≤ sample))
      (l := samples)
  have below := second.below
  have above := first.above
  omega

/-- There is one sample of a rank. -/
theorem OrderStatistic.unique (first : OrderStatistic samples rank value)
    (second : OrderStatistic samples rank value') : value = value' :=
  le_antisymm (first.le_of_le second le_rfl) (second.le_of_le first le_rfl)

/-- The order of the samples does not matter. -/
theorem OrderStatistic.perm {others : List Value}
    (statistic : OrderStatistic samples rank value)
    (same : samples.Perm others) : OrderStatistic others rank value where
  member := same.mem_iff.mp statistic.member
  below := same.countP_eq _ ▸ statistic.below
  above := same.length_eq ▸ same.countP_eq _ ▸ statistic.above

/-- Sorted samples stand at their ranks. -/
theorem OrderStatistic.of_sorted (sorted : samples.SortedLE)
    (bound : rank < samples.length) :
    OrderStatistic samples rank samples[rank] where
  member := List.getElem_mem bound
  below := by
    have front :
        ∀ sample ∈ samples.take (rank + 1), sample ≤ samples[rank] := by
      intro sample member
      rcases List.mem_iff_getElem.mp member with ⟨position, short, rfl⟩
      rw [List.length_take] at short
      rw [List.getElem_take]
      exact sorted.getElem_le_getElem_of_le (by omega)
    have all :
        (samples.take (rank + 1)).countP
            (fun sample => sample ≤ samples[rank]) = rank + 1 := by
      rw [List.countP_eq_length.mpr, List.length_take]
      · omega
      · intro sample member
        exact decide_eq_true (front sample member)
    have part :
        (samples.take (rank + 1)).countP
            (fun sample => sample ≤ samples[rank]) ≤
          samples.countP fun sample => sample ≤ samples[rank] :=
      (List.take_sublist (rank + 1) samples).countP_le
    omega
  above := by
    have back : ∀ sample ∈ samples.drop rank, samples[rank] ≤ sample := by
      intro sample member
      rcases List.mem_iff_getElem.mp member with ⟨position, short, rfl⟩
      rw [List.getElem_drop]
      exact sorted.getElem_le_getElem_of_le (by omega)
    have all :
        (samples.drop rank).countP (fun sample => samples[rank] ≤ sample) =
          samples.length - rank := by
      rw [List.countP_eq_length.mpr, List.length_drop]
      intro sample member
      exact decide_eq_true (back sample member)
    have part :
        (samples.drop rank).countP (fun sample => samples[rank] ≤ sample) ≤
          samples.countP fun sample => samples[rank] ≤ sample :=
      (List.drop_sublist rank samples).countP_le
    omega

end Llgw.Foundation.OrderStatistics
