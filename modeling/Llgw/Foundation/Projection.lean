import Llgw.Foundation.TransitionRun

/-!
# Machines that follow one another

A machine is followed by a smaller one that is fed with the inputs that
concern it.  What relates their states after one event relates them after a
whole run, and the smaller machine gives the answers of the larger one.
-/

namespace Llgw.Foundation.Projection

open Llgw.Foundation.TransitionRun

universe u v w

section Follows

variable {State Small : Type u} {Input Input' : Type v}
  {Output Output' Answer : Type w}

/--
Every event that concerns the smaller machine is one step of it with the same
answer, and the smaller machine stands still during every other event.
-/
structure Follows (step : State → Input → Output × State)
    (small : Small → Input' → Output' × Small)
    (Related : State → Small → Prop)
    (inputOf : Event State Input Output → Option Input')
    (answerOf : Event State Input Output → Option Answer)
    (smallAnswer : Event Small Input' Output' → Option Answer) : Prop where
  unseen :
    ∀ state shown input, Related state shown →
      inputOf (event step state input) = none →
        Related (step state input).2 shown ∧
          answerOf (event step state input) = none
  seen :
    ∀ state shown input input', Related state shown →
      inputOf (event step state input) = some input' →
        Related (step state input).2 (small shown input').2 ∧
          answerOf (event step state input) =
            smallAnswer (event small shown input')

/-- The inputs of a run that concern the smaller machine. -/
def projected (step : State → Input → Output × State)
    (inputOf : Event State Input Output → Option Input')
    (initial : State) (inputs : List Input) : List Input' :=
  (events step initial inputs).filterMap inputOf

variable {step : State → Input → Output × State}
  {small : Small → Input' → Output' × Small}
  {Related : State → Small → Prop}
  {inputOf : Event State Input Output → Option Input'}
  {answerOf : Event State Input Output → Option Answer}
  {smallAnswer : Event Small Input' Output' → Option Answer}

/--
The projection rule: the smaller machine follows a whole run on the projected
inputs.
-/
theorem Follows.run
    (follows : Follows step small Related inputOf answerOf smallAnswer)
    {initial : State} {shown : Small} (start : Related initial shown)
    (inputs : List Input) :
    Related (run step initial inputs)
        (TransitionRun.run small shown
          (projected step inputOf initial inputs)) ∧
      (events step initial inputs).filterMap answerOf =
        (events small shown
          (projected step inputOf initial inputs)).filterMap
            smallAnswer := by
  induction inputs generalizing initial shown with
  | nil => exact ⟨start, rfl⟩
  | cons input rest induction =>
      cases concerns : inputOf (event step initial input) with
      | none =>
          rcases follows.unseen initial shown input start concerns with
            ⟨related, silent⟩
          have later := induction related
          simp only [projected, run_cons, events_cons] at later ⊢
          rw [List.filterMap_cons_none concerns,
            List.filterMap_cons_none silent]
          exact later
      | some input' =>
          rcases follows.seen initial shown input input' start concerns with
            ⟨related, answered⟩
          have later := induction related
          simp only [projected, run_cons, events_cons] at later ⊢
          rw [List.filterMap_cons_some concerns, run_cons, events_cons,
            List.filterMap_cons, List.filterMap_cons, answered, later.2]
          exact ⟨later.1, rfl⟩

/-- The answers of a run in which every event is answered. -/
theorem filterMap_output (step : State → Input → Output × State)
    (initial : State) (inputs : List Input) :
    (events step initial inputs).filterMap
        (fun entry => some entry.output) =
      outputs step initial inputs :=
  congrFun List.filterMap_eq_map _

end Follows

section Pairing

variable {Left Right : Type u} {Input : Type v} {Output Output' : Type w}
  (left : Left → Input → Output × Left)
  (right : Right → Input → Output' × Right)

/--
The pairing rule: a relation of two states that every common input keeps, and
under which the answers are related, holds of whole runs.
-/
theorem run_related (Related : Left → Right → Prop)
    (Answers : Output → Output' → Prop)
    (keeps :
      ∀ first second input, Related first second →
        Answers (left first input).1 (right second input).1 ∧
          Related (left first input).2 (right second input).2)
    {first : Left} {second : Right} (start : Related first second)
    (inputs : List Input) :
    Related (run left first inputs) (run right second inputs) ∧
      List.Forall₂ Answers (outputs left first inputs)
        (outputs right second inputs) := by
  induction inputs generalizing first second with
  | nil => exact ⟨start, .nil⟩
  | cons input rest induction =>
      rcases keeps first second input start with ⟨answers, related⟩
      have later := induction related
      exact ⟨later.1, .cons answers later.2⟩

end Pairing

end Llgw.Foundation.Projection
