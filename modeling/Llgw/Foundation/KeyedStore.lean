import Mathlib.Data.Finmap

/-!
# Keyed stores with map-style updates

`Store Key Value` is Mathlib's finite map with a constant family.  To its
`insert` and `erase` this module adds the two remaining updates of an
associative container: `emplace`, which keeps an entry that is already there,
and `modify`, which rewrites an entry in place.
-/

namespace Llgw.Foundation.KeyedStore

universe u v

/-- A finite map from keys to values. -/
abbrev Store (Key : Type u) (Value : Type v) : Type (max u v) :=
  Finmap (fun _ : Key => Value)

variable {Key : Type u} {Value : Type v} [DecidableEq Key]

/-- Add an entry unless the key is present; the flag says whether it was added. -/
def emplace (key : Key) (value : Value) (store : Store Key Value) :
    Bool × Store Key Value :=
  if key ∈ store then (false, store) else (true, store.insert key value)

/-- Rewrite the entry of a present key; an absent key stays absent. -/
def modify (key : Key) (change : Value → Value)
    (store : Store Key Value) : Store Key Value :=
  match store.lookup key with
  | some value => store.insert key (change value)
  | none => store

variable {key other : Key} {value : Value} {change : Value → Value}
  {store : Store Key Value}

theorem emplace_of_mem (present : key ∈ store) :
    emplace key value store = (false, store) :=
  if_pos present

theorem emplace_of_notMem (absent : key ∉ store) :
    emplace key value store = (true, store.insert key value) :=
  if_neg absent

theorem mem_emplace :
    other ∈ (emplace key value store).2 ↔ other = key ∨ other ∈ store := by
  by_cases present : key ∈ store
  · rw [emplace_of_mem present]
    refine ⟨Or.inr, ?_⟩
    rintro (rfl | old)
    · exact present
    · exact old
  · rw [emplace_of_notMem present]
    exact Finmap.mem_insert

theorem modify_of_lookup (found : store.lookup key = some value) :
    modify key change store = store.insert key (change value) := by
  simp only [modify, found]

/-- An entry after an insertion, for every key. -/
theorem lookup_insert_eq_ite (store : Store Key Value)
    (key other : Key) (value : Value) :
    (store.insert key value).lookup other =
      if other = key then some value else store.lookup other := by
  split_ifs with same
  · subst same
    exact Finmap.lookup_insert store
  · exact Finmap.lookup_insert_of_ne store same

/-- An entry after an erasure, for every key. -/
theorem lookup_erase_eq_ite (store : Store Key Value)
    (key other : Key) :
    (store.erase key).lookup other =
      if other = key then none else store.lookup other := by
  split_ifs with same
  · subst same
    exact Finmap.lookup_erase other store
  · exact Finmap.lookup_erase_ne same

@[simp]
theorem keys_insert (store : Store Key Value)
    (key : Key) (value : Value) :
    (store.insert key value).keys = insert key store.keys := by
  ext candidate
  rw [Finmap.mem_keys, Finmap.mem_insert, Finset.mem_insert,
    Finmap.mem_keys]

theorem card_keys_insert_of_notMem (absent : key ∉ store) (value : Value) :
    (store.insert key value).keys.card = store.keys.card + 1 := by
  rw [keys_insert, Finset.card_insert_of_notMem]
  rwa [Finmap.mem_keys]

theorem card_keys_insert_of_mem (present : key ∈ store) (value : Value) :
    (store.insert key value).keys.card = store.keys.card := by
  rw [keys_insert, Finset.insert_eq_of_mem]
  rwa [Finmap.mem_keys]

theorem card_keys_erase_of_mem (present : key ∈ store) :
    (store.erase key).keys.card + 1 = store.keys.card := by
  rw [Finmap.keys_erase]
  exact Finset.card_erase_add_one (Finmap.mem_keys.mpr present)

/-- Rewriting an entry that has just been written. -/
theorem modify_insert_self (store : Store Key Value)
    (key : Key) (value : Value) (change : Value → Value) :
    modify key change (store.insert key value) =
      store.insert key (change value) := by
  rw [modify_of_lookup (Finmap.lookup_insert store),
    Finmap.insert_insert]

/-! ## Writes to one key -/

/-- What an operation does to the entry of one key. -/
inductive Write (Value : Type v) where
  | keep
  | put (value : Value)
  | drop

namespace Write

/-- The entry that a write leaves. -/
def entry (old : Option Value) : Write Value → Option Value
  | keep => old
  | put value => some value
  | drop => none

/-- Carry out a write. -/
def applyTo (key : Key) (store : Store Key Value) :
    Write Value → Store Key Value
  | keep => store
  | put value => store.insert key value
  | drop => store.erase key

theorem lookup_applyTo (write : Write Value) (store : Store Key Value)
    (key other : Key) :
    (write.applyTo key store).lookup other =
      if other = key then write.entry (store.lookup key)
      else store.lookup other := by
  cases write with
  | keep =>
      show store.lookup other = _
      split_ifs with same
      · rw [same, entry]
      · rfl
  | put value => exact lookup_insert_eq_ite store key other value
  | drop => exact lookup_erase_eq_ite store key other

theorem lookup_applyTo_of_ne (write : Write Value) (store : Store Key Value)
    (different : other ≠ key) :
    (write.applyTo key store).lookup other = store.lookup other := by
  rw [lookup_applyTo, if_neg different]

/-- Writes to different keys commute. -/
theorem applyTo_comm (first second : Write Value)
    (store : Store Key Value) (different : key ≠ other) :
    second.applyTo other (first.applyTo key store) =
      first.applyTo key (second.applyTo other store) := by
  apply Finmap.ext_lookup
  intro candidate
  simp only [lookup_applyTo]
  by_cases isKey : candidate = key
  · subst isKey
    simp [different]
  · by_cases isOther : candidate = other
    · subst isOther
      simp [isKey]
    · simp [isKey, isOther]

end Write

/-! ## Stores of values that know their keys -/

/-- A store that holds exactly these values, each under its own key. -/
def Holds (keyOf : Value → Key) (values : List Value)
    (store : Store Key Value) : Prop :=
  ∀ key value,
    store.lookup key = some value ↔ value ∈ values ∧ keyOf value = key

namespace Holds

variable {keyOf : Value → Key} {values : List Value}

theorem empty : Holds keyOf [] (∅ : Store Key Value) := by
  intro key value
  simp

/-- One more value, under a key that is not yet in use. -/
theorem insert (holds : Holds keyOf values store)
    (absent : keyOf value ∉ store) :
    Holds keyOf (values ++ [value]) (store.insert (keyOf value) value) := by
  intro key other
  rw [lookup_insert_eq_ite, List.mem_append, List.mem_singleton]
  split_ifs with same
  · subst same
    constructor
    · intro equal
      cases equal
      exact ⟨Or.inr rfl, rfl⟩
    · rintro ⟨old | rfl, sameKey⟩
      · have found := (holds (keyOf value) other).mpr ⟨old, sameKey⟩
        exact absurd (Finmap.mem_of_lookup_eq_some found) absent
      · rfl
  · rw [holds key other]
    constructor
    · rintro ⟨old, ownKey⟩
      exact ⟨Or.inl old, ownKey⟩
    · rintro ⟨old | rfl, ownKey⟩
      · exact ⟨old, ownKey⟩
      · exact absurd ownKey.symm same

/-- A store with these values has an entry for each of their keys. -/
theorem mem_iff (holds : Holds keyOf values store) :
    key ∈ store ↔ key ∈ values.map keyOf := by
  rw [Finmap.mem_iff, List.mem_map]
  exact exists_congr fun value => holds key value

/-- The value at some place is replaced by one with the same key. -/
theorem replace {front back : List Value} {old : Value}
    (holds : Holds keyOf (front ++ old :: back) store)
    (distinct : ((front ++ old :: back).map keyOf).Nodup)
    (same : keyOf value = keyOf old) :
    Holds keyOf (front ++ value :: back)
      (store.insert (keyOf value) value) := by
  rw [List.map_append, List.map_cons, List.nodup_middle,
    ← List.map_append, List.nodup_cons, ← same] at distinct
  intro key other
  have moved :
      (other ∈ front ++ value :: back ↔
          other = value ∨ other ∈ front ++ back) ∧
        (other ∈ front ++ old :: back ↔
          other = old ∨ other ∈ front ++ back) :=
    ⟨List.perm_middle.mem_iff.trans List.mem_cons,
      List.perm_middle.mem_iff.trans List.mem_cons⟩
  rw [lookup_insert_eq_ite, moved.1]
  split_ifs with equal
  · subst equal
    constructor
    · intro found
      cases found
      exact ⟨Or.inl rfl, rfl⟩
    · rintro ⟨rfl | another, sameKey⟩
      · rfl
      · rw [← sameKey] at distinct
        exact absurd (List.mem_map_of_mem another) distinct.1
  · rw [holds key other, moved.2]
    constructor
    · rintro ⟨rfl | another, ownKey⟩
      · exact absurd (ownKey.symm.trans same.symm) equal
      · exact ⟨Or.inr another, ownKey⟩
    · rintro ⟨rfl | another, ownKey⟩
      · exact absurd ownKey.symm equal
      · exact ⟨Or.inr another, ownKey⟩

end Holds

end Llgw.Foundation.KeyedStore
