import Mathlib.Data.List.Basic
import Mathlib.Data.List.Forall2
import Mathlib.Data.List.Induction
import Mathlib.Data.List.ReduceOption

/-!
# Runs of deterministic machines with outputs

A machine is a function from a state and an input to an output and a next
state.  This module defines the final state and the recorded events of a
finite run, and the rules by which a property of one step becomes a property
of a whole run.  It names nothing of a particular machine.
-/

namespace Llgw.Foundation.TransitionRun

universe u v w

variable {State : Type u} {Input : Type v} {Output : Type w}

/-- One call of a run, with the states around it. -/
structure Event (State : Type u) (Input : Type v) (Output : Type w) where
  before : State
  input : Input
  output : Output
  after : State

/-- The event of one step. -/
def event (step : State → Input → Output × State)
    (state : State) (input : Input) : Event State Input Output where
  before := state
  input := input
  output := (step state input).1
  after := (step state input).2

/-- The state after a finite sequence of inputs. -/
def run (step : State → Input → Output × State) :
    State → List Input → State
  | state, [] => state
  | state, input :: rest => run step (step state input).2 rest

/-- The events of a finite sequence of inputs, oldest first. -/
def events (step : State → Input → Output × State) :
    State → List Input → List (Event State Input Output)
  | _, [] => []
  | state, input :: rest =>
      event step state input :: events step (step state input).2 rest

/-- The outputs of a finite sequence of inputs, oldest first. -/
def outputs (step : State → Input → Output × State)
    (state : State) (inputs : List Input) : List Output :=
  (events step state inputs).map Event.output

section Rules

variable (step : State → Input → Output × State)

@[simp]
theorem run_nil (state : State) : run step state [] = state := rfl

@[simp]
theorem run_cons (state : State) (input : Input) (rest : List Input) :
    run step state (input :: rest) =
      run step (step state input).2 rest := rfl

@[simp]
theorem events_nil (state : State) : events step state [] = [] := rfl

@[simp]
theorem events_cons (state : State) (input : Input) (rest : List Input) :
    events step state (input :: rest) =
      event step state input ::
        events step (step state input).2 rest := rfl

@[simp]
theorem outputs_cons (state : State) (input : Input) (rest : List Input) :
    outputs step state (input :: rest) =
      (step state input).1 :: outputs step (step state input).2 rest := rfl

theorem run_append (state : State) (first second : List Input) :
    run step state (first ++ second) =
      run step (run step state first) second := by
  induction first generalizing state with
  | nil => rfl
  | cons input rest induction =>
      exact induction (step state input).2

theorem events_append (state : State) (first second : List Input) :
    events step state (first ++ second) =
      events step state first ++
        events step (run step state first) second := by
  induction first generalizing state with
  | nil => rfl
  | cons input rest induction =>
      rw [List.cons_append, events_cons, events_cons, run_cons,
        induction, List.cons_append]

theorem run_concat (state : State) (inputs : List Input) (last : Input) :
    run step state (inputs ++ [last]) =
      (step (run step state inputs) last).2 := by
  rw [run_append]
  rfl

theorem events_concat
    (state : State) (inputs : List Input) (last : Input) :
    events step state (inputs ++ [last]) =
      events step state inputs ++
        [event step (run step state inputs) last] := by
  rw [events_append]
  rfl

theorem outputs_concat
    (state : State) (inputs : List Input) (last : Input) :
    outputs step state (inputs ++ [last]) =
      outputs step state inputs ++
        [(step (run step state inputs) last).1] := by
  rw [outputs, events_concat, List.map_append]
  rfl

/--
The history rule: a property of the events so far and the state they lead to
holds of every run when it holds of the empty run and one more call keeps it.
-/
theorem run_history_induction
    {motive : List (Event State Input Output) → State → Prop}
    {initial : State}
    (nil : motive [] initial)
    (concat :
      ∀ history state input,
        motive history state →
          motive (history ++ [event step state input])
            (step state input).2)
    (inputs : List Input) :
    motive (events step initial inputs) (run step initial inputs) := by
  induction inputs using List.reverseRecOn with
  | nil => exact nil
  | append_singleton inputs last induction =>
      rw [events_concat, run_concat]
      exact concat _ _ last induction

/-- The invariant rule: what one step preserves, a whole run preserves. -/
theorem run_invariant
    (Invariant : State → Prop)
    {initial : State}
    (start : Invariant initial)
    (preserved :
      ∀ state input, Invariant state → Invariant (step state input).2)
    (inputs : List Input) :
    Invariant (run step initial inputs) :=
  run_history_induction step
    (motive := fun _ state => Invariant state)
    start (fun _ state input => preserved state input) inputs

/--
Under an invariant, a property of every single step is a property of every
event of a run.
-/
theorem events_forall
    (Invariant : State → Prop)
    (Holds : Event State Input Output → Prop)
    {initial : State}
    (start : Invariant initial)
    (preserved :
      ∀ state input, Invariant state → Invariant (step state input).2)
    (holds :
      ∀ state input, Invariant state → Holds (event step state input))
    (inputs : List Input) :
    ∀ entry ∈ events step initial inputs, Holds entry := by
  induction inputs generalizing initial with
  | nil => simp
  | cons input rest induction =>
      intro entry member
      rcases List.mem_cons.mp member with rfl | later
      · exact holds initial input start
      · exact induction (preserved initial input start) entry later

/-- A property of every single step is a property of every event of a run. -/
theorem events_forall_of_step (Holds : Event State Input Output → Prop)
    (holds : ∀ state input, Holds (event step state input))
    (initial : State) (inputs : List Input) :
    ∀ entry ∈ events step initial inputs, Holds entry := by
  apply events_forall step (fun _ => True)
  · trivial
  · intro state input _
    trivial
  · intro state input _
    exact holds state input

/-- The calls of a run are those of its inputs in the states before them. -/
theorem mem_events_iff (initial : State) (inputs : List Input)
    (entry : Event State Input Output) :
    entry ∈ events step initial inputs ↔
      ∃ earlier input later,
        inputs = earlier ++ input :: later ∧
          entry = event step (run step initial earlier) input := by
  constructor
  · intro member
    induction inputs generalizing initial with
    | nil => contradiction
    | cons input rest induction =>
        rcases List.mem_cons.mp member with rfl | later
        · exact ⟨[], input, rest, rfl, rfl⟩
        · rcases induction (step initial input).2 later with
            ⟨earlier, last, after, rfl, rfl⟩
          exact ⟨input :: earlier, last, after, rfl, rfl⟩
  · rintro ⟨earlier, input, later, rfl, rfl⟩
    rw [events_append, events_cons]
    exact List.mem_append_right _ List.mem_cons_self

/--
Under an invariant, a relation of every single input to its output is one of
whole runs.
-/
theorem forall₂_outputs_of_invariant
    (Invariant : State → Prop)
    (Related : Input → Output → Prop)
    {initial : State}
    (start : Invariant initial)
    (preserved :
      ∀ state input, Invariant state → Invariant (step state input).2)
    (related :
      ∀ state input, Invariant state → Related input (step state input).1)
    (inputs : List Input) :
    List.Forall₂ Related inputs (outputs step initial inputs) := by
  induction inputs generalizing initial with
  | nil => exact .nil
  | cons input rest induction =>
      exact
        .cons (related initial input start)
          (induction (preserved initial input start))

/-- A relation of every single input to its output is one of whole runs. -/
theorem forall₂_outputs (Related : Input → Output → Prop)
    (related : ∀ state input, Related input (step state input).1)
    (state : State) (inputs : List Input) :
    List.Forall₂ Related inputs (outputs step state inputs) := by
  apply forall₂_outputs_of_invariant step (fun _ => True)
  · trivial
  · intro state input _
    trivial
  · intro state input _
    exact related state input

end Rules

section Simulation

variable {State' : Type u} {Output' : Type w}
  (step : State → Input → Output × State)
  (step' : State' → Input → Output' × State')

/--
The simulation rule: when the abstraction of a state answers a permitted call
alike and moves to the abstraction of the next state, it does so over every
run of permitted calls.
-/
theorem events_simulation
    (Invariant : State → Prop)
    (Permitted : State → Input → Prop)
    (Alike : Output → Output' → Prop)
    (abstraction : State → State')
    (preserved :
      ∀ state input, Invariant state → Invariant (step state input).2)
    (simulates :
      ∀ state input, Invariant state → Permitted state input →
        Alike (step state input).1 (step' (abstraction state) input).1 ∧
          (step' (abstraction state) input).2 =
            abstraction (step state input).2)
    {initial : State} (start : Invariant initial) (inputs : List Input)
    (permitted :
      ∀ entry ∈ events step initial inputs,
        Permitted entry.before entry.input) :
    List.Forall₂
      (fun left right =>
        Alike left.output right.output ∧
          right.after = abstraction left.after)
      (events step initial inputs)
      (events step' (abstraction initial) inputs) := by
  induction inputs generalizing initial with
  | nil => exact .nil
  | cons input rest induction =>
      rw [events_cons, List.forall_mem_cons] at permitted
      have first := simulates initial input start permitted.1
      have later :=
        induction (preserved initial input start) permitted.2
      rw [events_cons, events_cons, first.2]
      exact .cons first later

end Simulation

section Cascade

variable {State' : Type u} {Message : Type v} {Output' : Type w}
  (first : State → Input → Option Message × State)
  (second : State' → Message → Output' × State')

/-- Two machines, the second of which is fed what the first emits. -/
def cascade (states : State × State') (input : Input) : State × State' :=
  ((first states.1 input).2,
    match (first states.1 input).1 with
    | none => states.2
    | some message => (second states.2 message).2)

/--
The cascade rule: the second machine runs on what the first one emits over
the whole run, in order.
-/
theorem foldl_cascade (states : State × State') (inputs : List Input) :
    inputs.foldl (cascade first second) states =
      (run first states.1 inputs,
        run second states.2
          (outputs first states.1 inputs).reduceOption) := by
  induction inputs generalizing states with
  | nil => rfl
  | cons input rest induction =>
      rw [List.foldl_cons, induction, run_cons, outputs_cons]
      simp only [cascade]
      cases (first states.1 input).1 with
      | none => rw [List.reduceOption_cons_of_none]
      | some message => rw [List.reduceOption_cons_of_some, run_cons]

end Cascade

end Llgw.Foundation.TransitionRun
