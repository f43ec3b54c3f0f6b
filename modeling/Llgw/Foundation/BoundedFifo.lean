import Mathlib.Data.List.Basic

/-!
# Bounded first-in first-out queues

A bounded queue is a list that never exceeds its bound.  A push into a queue
with room appends, a push into a full one is refused, and a pop takes the
head.  This module names nothing of a particular implementation.
-/

namespace Llgw.Foundation.BoundedFifo

universe u

/-- A list of at most `bound` elements, oldest first. -/
@[ext]
structure Queue (Element : Type u) (bound : Nat) where
  elements : List Element
  length_le : elements.length ≤ bound

namespace Queue

variable {Element : Type u} {bound : Nat}

/-- The queue without an element. -/
def nil : Queue Element bound where
  elements := []
  length_le := Nat.zero_le bound

/-- Append an element if there is room. -/
def push (queue : Queue Element bound) (value : Element) :
    Bool × Queue Element bound :=
  if room : queue.elements.length < bound then
    (true,
      { elements := queue.elements ++ [value]
        length_le := by
          rw [List.length_append, List.length_singleton]
          exact room })
  else (false, queue)

/-- Remove the head if there is one. -/
def pop (queue : Queue Element bound) :
    Option Element × Queue Element bound :=
  (queue.elements.head?,
    { elements := queue.elements.tail
      length_le := by
        rw [List.length_tail]
        exact Nat.le_trans (Nat.sub_le _ 1) queue.length_le })

theorem push_of_room {queue : Queue Element bound}
    (room : queue.elements.length < bound) (value : Element) :
    (queue.push value).1 = true ∧
      (queue.push value).2.elements = queue.elements ++ [value] := by
  rw [push, dif_pos room]
  exact ⟨rfl, rfl⟩

theorem push_of_full {queue : Queue Element bound}
    (full : queue.elements.length = bound) (value : Element) :
    queue.push value = (false, queue) := by
  rw [push, dif_neg]
  rw [full]
  exact Nat.lt_irrefl bound

/-- A pop from the queue without an element changes nothing. -/
theorem pop_of_nil {queue : Queue Element bound}
    (drained : queue.elements = []) : queue.pop = (none, queue) := by
  apply Prod.ext
  · simp [pop, drained]
  · ext1
    simp [pop, drained]

end Queue

/-! ## Queues as machines -/

inductive QueueCall (Element : Type u) where
  | push (value : Element)
  | pop
deriving DecidableEq

inductive QueueReply (Element : Type u) where
  | pushed (accepted : Bool)
  | popped (value : Option Element)
deriving DecidableEq

/-- The replies that say that nothing was appended or removed. -/
def QueueReply.refuses {Element : Type u} : QueueReply Element → Bool
  | .pushed accepted => !accepted
  | .popped value => value.isNone

/-- One call on a bounded queue. -/
def queueStep {Element : Type u} {bound : Nat}
    (queue : Queue Element bound) :
    QueueCall Element → QueueReply Element × Queue Element bound
  | .push value => (.pushed (queue.push value).1, (queue.push value).2)
  | .pop => (.popped queue.pop.1, queue.pop.2)

end Llgw.Foundation.BoundedFifo
