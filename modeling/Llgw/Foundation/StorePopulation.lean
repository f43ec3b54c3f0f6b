import Llgw.Foundation.KeyedStore

/-!
# Counting the entries of a store

The population of a predicate is the number of entries whose value satisfies
it.  An insertion adds its value to the population and takes the value that it
replaces out of it.
-/

namespace Llgw.Foundation.StorePopulation

open Llgw.Foundation.KeyedStore

universe u v

variable {Key : Type u} {Value : Type v} [DecidableEq Key]

/-- The number of entries whose value satisfies a predicate. -/
def population (counted : Value → Bool) (store : Store Key Value) : Nat :=
  (store.keys.filter fun key =>
    (store.lookup key).any counted = true).card

variable {counted : Value → Bool} {store : Store Key Value} {key : Key}
  {value : Value}

@[simp]
theorem population_empty :
    population counted (∅ : Store Key Value) = 0 := rfl

/-- A new entry is counted if its value is. -/
theorem population_insert_of_notMem (absent : key ∉ store) :
    population counted (store.insert key value) =
      population counted store + if counted value then 1 else 0 := by
  have outside : key ∉ store.keys := by
    rwa [Finmap.mem_keys]
  have unchanged :
      (store.keys.filter fun other =>
          ((store.insert key value).lookup other).any counted = true) =
        store.keys.filter fun other =>
          (store.lookup other).any counted = true := by
    apply Finset.filter_congr
    intro other member
    have different : other ≠ key := by
      rintro rfl
      exact outside member
    rw [Finmap.lookup_insert_of_ne store different]
  rw [population, keys_insert, Finset.filter_insert, unchanged,
    Finmap.lookup_insert, Option.any_some]
  split_ifs with chosen
  · apply Finset.card_insert_of_notMem
    exact fun member => outside (Finset.mem_filter.mp member).1
  · rfl

/-- A replacing entry is counted in the place of the replaced one. -/
theorem population_insert_of_lookup {old : Value}
    (found : store.lookup key = some old) :
    population counted (store.insert key value) +
        (if counted old then 1 else 0) =
      population counted store + if counted value then 1 else 0 := by
  have absent : key ∉ store.erase key := Finmap.notMem_erase_self
  have restored : (store.erase key).insert key old = store := by
    apply Finmap.ext_lookup
    intro other
    rw [lookup_insert_eq_ite, lookup_erase_eq_ite]
    split_ifs with same
    · rw [same, found]
    · rfl
  have replaced :
      (store.erase key).insert key value = store.insert key value := by
    rw [← restored, Finmap.insert_insert, restored]
  have before :
      population counted store =
        population counted (store.erase key) +
          if counted old then 1 else 0 := by
    rw [← population_insert_of_notMem absent, restored]
  have after :
      population counted (store.insert key value) =
        population counted (store.erase key) +
          if counted value then 1 else 0 := by
    rw [← population_insert_of_notMem absent, replaced]
  omega

end Llgw.Foundation.StorePopulation
