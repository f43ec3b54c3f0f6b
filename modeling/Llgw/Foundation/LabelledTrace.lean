import Llgw.Foundation.TransitionRun

/-!
# Traces of labelled transitions

Finite traces of a relation whose steps carry labels, with the history rule
for properties of the labels so far and each label with its past.  A run of a deterministic machine refines
a labelled relation when every call, from a state that satisfies an invariant,
is a trace of it.
-/

namespace Llgw.Foundation.LabelledTrace

open Llgw.Foundation.TransitionRun

universe u v w x

variable {State : Type u} {Label : Type x}

/-- A finite sequence of labelled steps. -/
inductive Trace (step : State → Label → State → Prop) :
    State → List Label → State → Prop where
  | nil {state : State} : Trace step state [] state
  | cons {state next final : State} {label : Label} {labels : List Label}
      (head : step state label next)
      (tail : Trace step next labels final) :
      Trace step state (label :: labels) final

namespace Trace

variable {step : State → Label → State → Prop}
  {initial middle final : State}

theorem single {label : Label} (head : step initial label final) :
    Trace step initial [label] final :=
  .cons head .nil

theorem append {first second : List Label}
    (start : Trace step initial first middle)
    (finish : Trace step middle second final) :
    Trace step initial (first ++ second) final := by
  induction start with
  | nil => exact finish
  | cons head _ induction => exact .cons head (induction finish)

/-- What every step preserves, a trace preserves. -/
theorem invariant {labels : List Label}
    (trace : Trace step initial labels final)
    (Invariant : State → Prop)
    (preserved :
      ∀ state label next,
        step state label next → Invariant state → Invariant next)
    (start : Invariant initial) : Invariant final := by
  induction trace with
  | nil => exact start
  | cons head _ induction =>
      exact induction (preserved _ _ _ head start)

/--
The history rule for traces: a property of the labels so far and the state
they lead to is extended by one step at a time.
-/
theorem history {motive : List Label → State → Prop}
    (concat :
      ∀ past state label next,
        step state label next → motive past state →
          motive (past ++ [label]) next)
    {labels : List Label}
    (trace : Trace step initial labels final)
    (past : List Label)
    (start : motive past initial) : motive (past ++ labels) final := by
  induction trace generalizing past with
  | nil => rwa [List.append_nil]
  | cons head _ induction =>
      have extended :=
        induction (past ++ [_]) (concat past _ _ _ head start)
      rwa [List.append_assoc, List.singleton_append] at extended

end Trace

/-! ## Labels with their past -/

/-- Every label of a history, with the history before it. -/
def withPast (past : List Label) : List Label → List (List Label × Label)
  | [] => []
  | label :: later => (past, label) :: withPast (past ++ [label]) later

theorem withPast_concat (past labels : List Label) (last : Label) :
    withPast past (labels ++ [last]) =
      withPast past labels ++ [(past ++ labels, last)] := by
  induction labels generalizing past with
  | nil => simp [withPast]
  | cons label later induction => simp [withPast, induction]

section Refinement

variable {Input : Type v} {Output : Type w}
  {machine : State → Input → Output × State}
  {step : State → Label → State → Prop}
  {observe : Event State Input Output → List Label}

/-- The labels that a run shows, oldest first. -/
def observed (machine : State → Input → Output × State)
    (observe : Event State Input Output → List Label)
    (initial : State) (inputs : List Input) : List Label :=
  (events machine initial inputs).flatMap observe

theorem observed_concat (machine : State → Input → Output × State)
    (observe : Event State Input Output → List Label)
    (initial : State) (inputs : List Input) (last : Input) :
    observed machine observe initial (inputs ++ [last]) =
      observed machine observe initial inputs ++
        observe (event machine (run machine initial inputs) last) := by
  rw [observed, events_concat, List.flatMap_append, List.flatMap_singleton]
  rfl

/--
The refinement rule: when every call is a trace of labelled steps that keep
the invariant, so is every run.
-/
theorem run_trace (Invariant : State → Prop)
    (preserved :
      ∀ state label next,
        step state label next → Invariant state → Invariant next)
    (refines :
      ∀ state input, Invariant state →
        Trace step state (observe (event machine state input))
          (machine state input).2)
    {initial : State} (start : Invariant initial) (inputs : List Input) :
    Trace step initial (observed machine observe initial inputs)
      (run machine initial inputs) := by
  induction inputs generalizing initial with
  | nil => exact .nil
  | cons input rest induction =>
      have first := refines initial input start
      have kept := first.invariant Invariant preserved start
      exact first.append (induction kept)

end Refinement

end Llgw.Foundation.LabelledTrace
