import Mathlib.Data.PNat.Basic
import Mathlib.Data.List.Range
import Mathlib.Data.Nat.ModEq

/-!
# The ring buffer

`RingBuffer<T, Capacity>` of `ring_buffer.hpp`.  The capacity is a positive
natural, as its `static_assert` demands.  The two indices, the size and the
relation between them are fields together with their invariant, so every
access to the storage is in bounds by construction.  `contents` is the queue
that a buffer represents.
-/

namespace Llgw.Buffer

universe u

/-- `RingBuffer::NextIndex`. -/
def nextIndex (capacity : ℕ+) (index : Nat) : Nat :=
  (index + 1) % capacity

theorem nextIndex_lt (capacity : ℕ+) (index : Nat) :
    nextIndex capacity index < capacity :=
  Nat.mod_lt _ capacity.pos

structure RingBuffer (Element : Type u) (capacity : ℕ+) where
  storage : Vector Element capacity
  head : Nat
  tail : Nat
  size : Nat
  head_lt : head < capacity
  size_le : size ≤ capacity
  tail_eq : tail = (head + size) % capacity

namespace RingBuffer

variable {Element : Type u} {capacity : ℕ+}

theorem tail_lt (buffer : RingBuffer Element capacity) :
    buffer.tail < capacity := by
  rw [buffer.tail_eq]
  exact Nat.mod_lt _ capacity.pos

/-- A new buffer holds value-initialised storage and no element. -/
def fresh [Inhabited Element] : RingBuffer Element capacity where
  storage := Vector.replicate capacity default
  head := 0
  tail := 0
  size := 0
  head_lt := capacity.pos
  size_le := Nat.zero_le _
  tail_eq := (Nat.zero_mod _).symm

/-- `RingBuffer::Empty`. -/
def empty (buffer : RingBuffer Element capacity) : Bool :=
  buffer.size == 0

/-- `RingBuffer::Full`. -/
def full (buffer : RingBuffer Element capacity) : Bool :=
  buffer.size == capacity

/-- `RingBuffer::Push`. -/
def push (buffer : RingBuffer Element capacity) (value : Element) :
    Bool × RingBuffer Element capacity :=
  if filled : buffer.full then (false, buffer)
  else
    (true,
      { storage := buffer.storage.set buffer.tail value buffer.tail_lt
        head := buffer.head
        tail := nextIndex capacity buffer.tail
        size := buffer.size + 1
        head_lt := buffer.head_lt
        size_le := by
          have bound := buffer.size_le
          have room : buffer.size ≠ capacity := by simpa [full] using filled
          omega
        tail_eq := by
          rw [nextIndex, buffer.tail_eq, Nat.mod_add_mod, Nat.add_assoc] })

/-- `RingBuffer::Pop`. -/
def pop (buffer : RingBuffer Element capacity) :
    Option Element × RingBuffer Element capacity :=
  if drained : buffer.empty then (none, buffer)
  else
    have inside := buffer.head_lt
    (some buffer.storage[buffer.head],
      { storage := buffer.storage
        head := nextIndex capacity buffer.head
        tail := buffer.tail
        size := buffer.size - 1
        head_lt := nextIndex_lt capacity buffer.head
        size_le := Nat.le_trans (Nat.sub_le _ _) buffer.size_le
        tail_eq := by
          have filled : buffer.size ≠ 0 := by simpa [empty] using drained
          rw [buffer.tail_eq, nextIndex, Nat.mod_add_mod]
          congr 1
          omega })

/-! ## The represented queue -/

/-- The element `offset` places behind the head. -/
def slot (buffer : RingBuffer Element capacity) (offset : Nat) : Element :=
  have inside := Nat.mod_lt (buffer.head + offset) capacity.pos
  buffer.storage[(buffer.head + offset) % capacity]

/-- The live elements in queue order. -/
def contents (buffer : RingBuffer Element capacity) : List Element :=
  (List.range buffer.size).map buffer.slot

@[simp]
theorem length_contents (buffer : RingBuffer Element capacity) :
    buffer.contents.length = buffer.size := by
  simp [contents]

@[simp]
theorem contents_fresh [Inhabited Element] :
    (fresh : RingBuffer Element capacity).contents = [] := rfl

theorem length_contents_le (buffer : RingBuffer Element capacity) :
    buffer.contents.length ≤ capacity := by
  rw [length_contents]
  exact buffer.size_le

/-- A buffer is full exactly when its queue has the length of its capacity. -/
theorem full_iff (buffer : RingBuffer Element capacity) :
    buffer.full = true ↔ buffer.contents.length = capacity := by
  simp [full]

/-- A buffer is empty exactly when its queue is. -/
theorem empty_iff (buffer : RingBuffer Element capacity) :
    buffer.empty = true ↔ buffer.contents = [] := by
  rw [← List.length_eq_zero_iff, length_contents]
  simp [empty]

/-- Behind the head of a queue there is always room for one more. -/
theorem full_of_rest
    {buffer other : RingBuffer Element capacity}
    {first : Element} {rest : List Element}
    (queue : buffer.contents = first :: rest)
    (remaining : other.contents = rest) :
    other.full = false := by
  rw [Bool.eq_false_iff, Ne, full_iff, remaining]
  have bound := buffer.length_contents_le
  rw [queue, List.length_cons] at bound
  exact Nat.ne_of_lt bound

theorem push_of_full
    {buffer : RingBuffer Element capacity}
    (filled : buffer.full = true) (value : Element) :
    buffer.push value = (false, buffer) := by
  rw [push, dif_pos filled]

theorem push_fst (buffer : RingBuffer Element capacity) (value : Element) :
    (buffer.push value).1 = !buffer.full := by
  unfold push
  split_ifs with filled <;> simp [filled]

/-- Fewer than `capacity` places separate a live slot from the tail. -/
theorem tail_ne_live (buffer : RingBuffer Element capacity)
    (room : buffer.size < capacity) {offset : Nat}
    (live : offset < buffer.size) :
    buffer.tail ≠ (buffer.head + offset) % capacity := by
  rw [buffer.tail_eq]
  intro equal
  have congruent : offset ≡ buffer.size [MOD capacity] :=
    Nat.ModEq.add_left_cancel' buffer.head equal.symm
  have same : offset = buffer.size :=
    Nat.ModEq.eq_of_lt_of_lt congruent (live.trans room) room
  exact absurd same live.ne

/--
A push into a buffer with room appends.  The slot that is written is not live.
-/
theorem contents_push
    {buffer : RingBuffer Element capacity}
    (room : buffer.full = false) (value : Element) :
    (buffer.push value).2.contents = buffer.contents ++ [value] := by
  have bound : buffer.size < capacity := by
    have notFull : buffer.size ≠ capacity := by simpa [full] using room
    exact lt_of_le_of_ne buffer.size_le notFull
  have notFull : ¬ buffer.full = true := by simp [room]
  rw [push, dif_neg notFull]
  simp only [contents, List.range_succ, List.map_append, List.map_cons,
    List.map_nil]
  congr 1
  · apply List.map_congr_left
    intro offset member
    have inside : offset < buffer.size := List.mem_range.mp member
    have apart := buffer.tail_ne_live bound inside
    simp [slot, Vector.getElem_set_ne _ _ apart]
  · simp [slot, buffer.tail_eq]

theorem pop_of_empty
    {buffer : RingBuffer Element capacity}
    (drained : buffer.contents = []) :
    buffer.pop = (none, buffer) := by
  rw [pop, dif_pos (buffer.empty_iff.mpr drained)]

/-- A pop from a non-empty buffer removes and returns the head of its queue. -/
theorem pop_of_contents
    {buffer : RingBuffer Element capacity}
    {first : Element} {rest : List Element}
    (queue : buffer.contents = first :: rest) :
    buffer.pop.1 = some first ∧ buffer.pop.2.contents = rest := by
  have filled : ¬ buffer.empty = true := by
    simp [buffer.empty_iff, queue]
  obtain ⟨size, sizeEq⟩ : ∃ size, buffer.size = size + 1 :=
    Nat.exists_eq_succ_of_ne_zero (by simpa [empty] using filled)
  have split :
      buffer.contents =
        buffer.slot 0 :: (List.range size).map
          (fun offset => buffer.slot (offset + 1)) := by
    rw [contents, sizeEq, List.range_succ_eq_map, List.map_cons,
      List.map_map]
    rfl
  rw [queue] at split
  rcases List.cons.inj split with ⟨firstEq, restEq⟩
  rw [pop, dif_neg filled]
  constructor
  · rw [firstEq]
    simp [slot, Nat.mod_eq_of_lt buffer.head_lt]
  · rw [restEq]
    simp only [contents, sizeEq, Nat.add_sub_cancel]
    apply List.map_congr_left
    intro offset _
    simp only [slot, nextIndex, Nat.mod_add_mod]
    congr 2
    omega

end RingBuffer

end Llgw.Buffer
