import Llgw.Buffer
import Llgw.Foundation.BoundedFifo
import Llgw.Foundation.TransitionRun

/-!
# The ring buffer is a bounded queue

Any sequence of `Push` and `Pop` on a new ring buffer is answered as by a
queue bounded by the capacity.  What a buffer stores represents that queue in
every reachable state, whatever the wrap-around of its indices.
-/

namespace Llgw.BufferRefinement

open Llgw.Foundation
open Llgw.Foundation.TransitionRun
open Llgw.Foundation.BoundedFifo
open Llgw.Buffer

universe u

variable {Element : Type u} {capacity : ℕ+}

/-- One call on a ring buffer. -/
def bufferStep (buffer : RingBuffer Element capacity) :
    QueueCall Element →
      QueueReply Element × RingBuffer Element capacity
  | .push value => (.pushed (buffer.push value).1, (buffer.push value).2)
  | .pop => (.popped buffer.pop.1, buffer.pop.2)

/-- The queue that a buffer represents. -/
def abstraction (buffer : RingBuffer Element capacity) :
    Queue Element capacity where
  elements := buffer.contents
  length_le := buffer.length_contents_le

/--
What ties the fields of a buffer to a queue.  Both indices are in bounds, the
live slots hold the queue, and the slot that a push would write is not live.
-/
structure Represents (buffer : RingBuffer Element capacity)
    (queue : Queue Element capacity) : Prop where
  head : buffer.head < capacity
  tail : buffer.tail < capacity
  size : buffer.size = queue.elements.length
  size_le : buffer.size ≤ capacity
  tail_eq : buffer.tail = (buffer.head + buffer.size) % capacity
  empty : buffer.empty = true ↔ queue.elements = []
  full : buffer.full = true ↔ queue.elements.length = capacity
  stored :
    ∀ offset (live : offset < queue.elements.length),
      buffer.storage[(buffer.head + offset) % capacity]? =
        some queue.elements[offset]
  spare :
    buffer.full = false →
      ∀ offset < queue.elements.length,
        buffer.tail ≠ (buffer.head + offset) % capacity

theorem represents_abstraction (buffer : RingBuffer Element capacity) :
    Represents buffer (abstraction buffer) where
  head := buffer.head_lt
  tail := buffer.tail_lt
  size := buffer.length_contents.symm
  size_le := buffer.size_le
  tail_eq := buffer.tail_eq
  empty := buffer.empty_iff
  full := buffer.full_iff
  stored := by
    intro offset live
    have inside := Nat.mod_lt (buffer.head + offset) capacity.pos
    rw [Vector.getElem?_eq_getElem inside]
    simp [abstraction, RingBuffer.contents, RingBuffer.slot]
  spare := by
    intro room offset live
    have notFull : buffer.size ≠ capacity := by
      simpa [RingBuffer.full] using room
    apply buffer.tail_ne_live (lt_of_le_of_ne buffer.size_le notFull)
    rwa [← buffer.length_contents]

/-! ## One call -/

theorem abstraction_push (buffer : RingBuffer Element capacity)
    (value : Element) :
    (abstraction buffer).push value =
      ((buffer.push value).1, abstraction (buffer.push value).2) := by
  cases filled : buffer.full with
  | true =>
      have full : (abstraction buffer).elements.length = capacity :=
        buffer.full_iff.mp filled
      rw [Queue.push_of_full full, RingBuffer.push_of_full filled]
  | false =>
      have room : (abstraction buffer).elements.length < capacity := by
        apply lt_of_le_of_ne (abstraction buffer).length_le
        intro full
        rw [buffer.full_iff.mpr full] at filled
        contradiction
      have appended := Queue.push_of_room room value
      apply Prod.ext
      · rw [appended.1, RingBuffer.push_fst, filled]
        rfl
      · ext1
        rw [appended.2]
        exact (RingBuffer.contents_push filled value).symm

theorem abstraction_pop (buffer : RingBuffer Element capacity) :
    (abstraction buffer).pop =
      (buffer.pop.1, abstraction buffer.pop.2) := by
  cases queue : buffer.contents with
  | nil =>
      have drained : (abstraction buffer).elements = [] := queue
      rw [Queue.pop_of_nil drained, RingBuffer.pop_of_empty queue]
  | cons first rest =>
      have removed := RingBuffer.pop_of_contents queue
      have elements : (abstraction buffer).elements = first :: rest := queue
      apply Prod.ext
      · simp only [Queue.pop, elements, List.head?_cons, removed.1]
      · ext1
        simp only [Queue.pop, elements, List.tail_cons]
        exact removed.2.symm

/-- A buffer answers and moves as the queue that it represents. -/
theorem queueStep_abstraction (buffer : RingBuffer Element capacity)
    (call : QueueCall Element) :
    queueStep (abstraction buffer) call =
      ((bufferStep buffer call).1,
        abstraction (bufferStep buffer call).2) := by
  cases call with
  | push value => rw [queueStep, bufferStep, abstraction_push]
  | pop => rw [queueStep, bufferStep, abstraction_pop]

/-- A refused call leaves every field of a buffer as it is. -/
theorem bufferStep_of_refuses {buffer : RingBuffer Element capacity}
    {call : QueueCall Element}
    (refused : (bufferStep buffer call).1.refuses = true) :
    (bufferStep buffer call).2 = buffer := by
  cases call with
  | push value =>
      have filled : buffer.full = true := by
        simpa [bufferStep, QueueReply.refuses, RingBuffer.push_fst]
          using refused
      rw [bufferStep, RingBuffer.push_of_full filled]
  | pop =>
      cases queue : buffer.contents with
      | nil => rw [bufferStep, RingBuffer.pop_of_empty queue]
      | cons first rest =>
          have taken := (RingBuffer.pop_of_contents queue).1
          simp [bufferStep, QueueReply.refuses, taken] at refused

/-! ## Every run -/

/-- From any buffer, a run is answered as by the queue it represents. -/
theorem events_abstraction (buffer : RingBuffer Element capacity)
    (calls : List (QueueCall Element)) :
    List.Forall₂
      (fun concrete abstract =>
        concrete.output = abstract.output ∧
          abstract.after = abstraction concrete.after)
      (events bufferStep buffer calls)
      (events queueStep (abstraction buffer) calls) := by
  apply
    events_simulation bufferStep queueStep (fun _ => True)
      (fun _ _ => True) Eq abstraction (fun _ _ _ => trivial)
  · intro state call _ _
    rw [queueStep_abstraction]
    exact ⟨rfl, rfl⟩
  · trivial
  · exact fun _ _ => trivial

/--
Over every sequence of calls on a new ring buffer, the replies are those of a
bounded queue that starts empty, the buffer represents the queue after every
call, and a refused call changes nothing.
-/
theorem ring_buffer_refines_bounded_queue
    [Inhabited Element] (calls : List (QueueCall Element)) :
    Represents (.fresh : RingBuffer Element capacity) Queue.nil ∧
      List.Forall₂
        (fun concrete abstract =>
          concrete.output = abstract.output ∧
            Represents concrete.after abstract.after)
        (events bufferStep (.fresh : RingBuffer Element capacity) calls)
        (events queueStep (.nil : Queue Element capacity) calls) ∧
      ∀ entry ∈ events bufferStep
          (.fresh : RingBuffer Element capacity) calls,
        entry.output.refuses = true → entry.after = entry.before := by
  have start :
      abstraction (.fresh : RingBuffer Element capacity) = Queue.nil := rfl
  constructor
  · rw [← start]
    exact represents_abstraction _
  constructor
  · have simulated :=
      events_abstraction (.fresh : RingBuffer Element capacity) calls
    rw [start] at simulated
    refine simulated.imp ?_
    rintro concrete abstract ⟨reply, next⟩
    refine ⟨reply, ?_⟩
    rw [next]
    exact represents_abstraction concrete.after
  · apply events_forall_of_step bufferStep
    intro buffer call refused
    exact bufferStep_of_refuses refused

end Llgw.BufferRefinement
