import Mathlib.Data.Nat.Basic

/-!
# Loops that end from inside

A pass of `while (true)` faults, goes round again, or ends the loop with a
result.  This module defines the run of such a loop and the states that it
reaches, and proves the rule for its total correctness: an invariant, a
variant, and a postcondition that every pass respects.
-/

namespace Llgw.Foundation.LoopRule

universe u v w

/-- How a pass ends that does not fault. -/
inductive Pass (State : Type u) (Result : Type v) where
  | again (next : State)
  | done (final : State) (result : Result)

variable {State : Type u} {Result : Type v} {Fault : Type w}

/-- The loop, cut off after `fuel` passes. -/
def run (body : State → Except Fault (Pass State Result)) :
    Nat → State → Option (Except Fault (State × Result))
  | 0, _ => none
  | fuel + 1, state =>
      match body state with
      | .error fault => some (.error fault)
      | .ok (.done final result) => some (.ok (final, result))
      | .ok (.again next) => run body fuel next

/-- The states in which a pass begins. -/
inductive Reached (body : State → Except Fault (Pass State Result))
    (initial : State) : State → Prop
  | entry : Reached body initial initial
  | again {state next : State} (earlier : Reached body initial state)
      (passed : body state = .ok (.again next)) : Reached body initial next

/-- What a pass from a state of the invariant has to establish. -/
inductive Respects (Invariant : State → Prop) (variant : State → Nat)
    (Post : State → Result → Prop) (state : State) :
    Except Fault (Pass State Result) → Prop
  | again {next : State} (invariant : Invariant next)
      (decreases : variant next < variant state) :
      Respects Invariant variant Post state (.ok (.again next))
  | done {final : State} {result : Result} (post : Post final result) :
      Respects Invariant variant Post state (.ok (.done final result))

variable {body : State → Except Fault (Pass State Result)}
  {Invariant : State → Prop} {variant : State → Nat}
  {Post : State → Result → Prop}

/--
The loop ends without a fault, in a state and with a result that do not depend
on the fuel and satisfy the postcondition.
-/
theorem run_total
    (respects :
      ∀ state, Invariant state →
        Respects Invariant variant Post state (body state))
    (state : State) (invariant : Invariant state) :
    ∃ final result,
      (∀ fuel, variant state < fuel →
        run body fuel state = some (.ok (final, result))) ∧
      Post final result := by
  induction size : variant state using Nat.strong_induction_on
    generalizing state with
  | h size induction =>
      have pass := respects state invariant
      generalize passed : body state = outcome at pass
      cases pass with
      | done post =>
          refine ⟨_, _, ?_, post⟩
          intro fuel enough
          cases fuel with
          | zero => exact absurd enough (Nat.not_lt_zero _)
          | succ fuel => rw [run, passed]
      | @again next kept decreases =>
          rcases induction (variant next) (size ▸ decreases) next kept rfl with
            ⟨final, result, ends, post⟩
          refine ⟨final, result, ?_, post⟩
          intro fuel enough
          cases fuel with
          | zero => exact absurd enough (Nat.not_lt_zero _)
          | succ fuel =>
              rw [run, passed]
              apply ends
              omega

/-- Every pass begins in a state of the invariant. -/
theorem Reached.invariant
    (respects :
      ∀ state, Invariant state →
        Respects Invariant variant Post state (body state))
    {initial state : State} (entry : Invariant initial)
    (reached : Reached body initial state) : Invariant state := by
  induction reached with
  | entry => exact entry
  | again _ passed invariant =>
      have pass := respects _ invariant
      rw [passed] at pass
      cases pass with
      | again kept _ => exact kept

end Llgw.Foundation.LoopRule
