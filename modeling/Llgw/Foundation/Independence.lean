import Llgw.Foundation.TransitionRun

/-!
# Independent inputs of deterministic machines

Every input of a machine has a key.  Where inputs with different keys neither
see nor disturb one another, up to what a view shows of a state, two runs that
present the inputs of each key in one and the same order give the same replies
and end in states that look the same.
-/

namespace Llgw.Foundation.Independence

open Llgw.Foundation.TransitionRun

universe u v w x y

variable {State : Type u} {Input : Type v} {Output : Type w}
  {Key : Type x} {View : Type y} [DecidableEq Key]

/-- The inputs with a key, in their order. -/
def inputsOf (key : Input → Key) (one : Key) (inputs : List Input) :
    List Input :=
  inputs.filter fun input => key input = one

/-- The inputs with a key and their replies, in their order. -/
def repliesOf (step : State → Input → Output × State) (key : Input → Key)
    (one : Key) (state : State) (inputs : List Input) :
    List (Input × Output) :=
  ((events step state inputs).filter fun entry =>
      key entry.input = one).map fun entry =>
    (entry.input, entry.output)

/-- A rearrangement that keeps the order of the inputs with the same key. -/
structure Reordered (key : Input → Key) (first second : List Input) :
    Prop where
  perm : first.Perm second
  order : ∀ one, inputsOf key one first = inputsOf key one second

/-- Inputs with different keys do not affect one another, as far as one sees. -/
structure Independent (step : State → Input → Output × State)
    (key : Input → Key) (view : State → View) : Prop where
  respects :
    ∀ {left right}, view left = view right → ∀ input,
      (step left input).1 = (step right input).1 ∧
        view (step left input).2 = view (step right input).2
  undisturbed :
    ∀ state {first second}, key first ≠ key second →
      (step (step state first).2 second).1 = (step state second).1
  commutes :
    ∀ state {first second}, key first ≠ key second →
      view (step (step state first).2 second).2 =
        view (step (step state second).2 first).2

variable {step : State → Input → Output × State} {key : Input → Key}
  {view : State → View}

theorem repliesOf_cons (one : Key) (state : State) (input : Input)
    (rest : List Input) :
    repliesOf step key one state (input :: rest) =
      (if key input = one then [(input, (step state input).1)] else []) ++
        repliesOf step key one (step state input).2 rest := by
  by_cases same : key input = one
  · simp [repliesOf, event, same]
  · simp [repliesOf, event, same]

/-- Two states in which a list of inputs cannot be told apart. -/
structure SameRun (step : State → Input → Output × State)
    (key : Input → Key) (view : State → View)
    (left right : State) (leftInputs rightInputs : List Input) : Prop where
  final :
    view (run step left leftInputs) = view (run step right rightInputs)
  replies :
    ∀ one,
      repliesOf step key one left leftInputs =
        repliesOf step key one right rightInputs

theorem SameRun.trans {left middle right : State}
    {first second third : List Input}
    (start : SameRun step key view left middle first second)
    (finish : SameRun step key view middle right second third) :
    SameRun step key view left right first third where
  final := start.final.trans finish.final
  replies one := (start.replies one).trans (finish.replies one)

/-- The same input in front of two runs. -/
theorem SameRun.cons {left right : State} {input : Input}
    {first second : List Input}
    (reply : (step left input).1 = (step right input).1)
    (rest :
      SameRun step key view (step left input).2 (step right input).2
        first second) :
    SameRun step key view left right (input :: first)
      (input :: second) where
  final := rest.final
  replies := by
    intro one
    rw [repliesOf_cons, repliesOf_cons, reply, rest.replies one]

namespace Independent

variable (independent : Independent step key view)
include independent

/-- States that look the same run the same. -/
theorem sameRun_of_view {left right : State}
    (same : view left = view right) (inputs : List Input) :
    SameRun step key view left right inputs inputs := by
  induction inputs generalizing left right with
  | nil => exact ⟨same, fun _ => rfl⟩
  | cons input rest induction =>
      have moved := independent.respects same input
      exact .cons moved.1 (induction moved.2)

/-- Two neighbours with different keys may change places. -/
theorem swap (state : State) {first second : Input}
    (different : key first ≠ key second) (rest : List Input) :
    SameRun step key view state state (first :: second :: rest)
      (second :: first :: rest) := by
  have later :=
    independent.sameRun_of_view (independent.commutes state different) rest
  constructor
  · exact later.final
  · intro one
    simp only [repliesOf_cons, independent.undisturbed state different,
      independent.undisturbed state different.symm, later.replies one]
    split_ifs with isFirst isSecond isSecond
    · exact absurd (isFirst.trans isSecond.symm) different
    · simp
    · simp
    · simp

/-- An input may be moved in front of inputs with other keys. -/
theorem move_front (state : State) (input : Input)
    (before after : List Input)
    (others : ∀ other ∈ before, key other ≠ key input) :
    SameRun step key view state state (before ++ input :: after)
      (input :: (before ++ after)) := by
  induction before generalizing state with
  | nil => exact independent.sameRun_of_view rfl _
  | cons first before induction =>
      rw [List.forall_mem_cons] at others
      have moved :=
        induction (step state first).2 others.2
      have inFront :
          SameRun step key view state state
            (first :: (before ++ input :: after))
            (first :: input :: (before ++ after)) :=
        .cons rfl moved
      exact inFront.trans (independent.swap state others.1 _)

/--
The reordering rule: a run depends, up to the view, on the order of the inputs
of each key alone.  The induction takes the first input of one list and moves
it to the front of the other.
-/
theorem sameRun_of_order (state : State) {first second : List Input}
    (order : ∀ one, inputsOf key one first = inputsOf key one second) :
    SameRun step key view state state first second := by
  induction first generalizing state second with
  | nil =>
      cases second with
      | nil => exact independent.sameRun_of_view rfl []
      | cons input rest =>
          have none := order (key input)
          simp [inputsOf] at none
  | cons input rest induction =>
      have own := order (key input)
      rw [inputsOf, inputsOf, List.filter_cons_of_pos (by simp)] at own
      obtain ⟨before, after, rfl, others, _, remaining⟩ :=
        List.filter_eq_cons_iff.mp own.symm
      have apart : ∀ other ∈ before, key other ≠ key input := by
        intro other member same
        exact others other member (decide_eq_true same)
      have later : SameRun step key view (step state input).2
          (step state input).2 rest (before ++ after) := by
        apply induction
        intro one
        have whole := order one
        simp only [inputsOf, List.filter_append, List.filter_cons] at whole ⊢
        split_ifs at whole with same
        · have none : before.filter (fun other => key other = one) = [] := by
            rw [List.filter_eq_nil_iff]
            intro other member found
            apply apart other member
            rw [of_decide_eq_true found, of_decide_eq_true same]
          rw [none] at whole ⊢
          exact (List.cons.inj whole).2
        · exact whole
      have back :=
        independent.move_front state input before after apart
      have front :
          SameRun step key view state state (input :: rest)
            (input :: (before ++ after)) :=
        .cons rfl later
      exact
        { final := front.final.trans back.final.symm
          replies := fun one =>
            (front.replies one).trans (back.replies one).symm }

end Independent

end Llgw.Foundation.Independence
