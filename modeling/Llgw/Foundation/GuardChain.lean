import Mathlib.Data.List.Basic

/-!
# Chains of guards

A chain of guards is tried in order: the first one that fires gives the
verdict, and a subject on which none fires passes.  This module says what a
chain decides, apart from any program that computes it.
-/

namespace Llgw.Foundation.GuardChain

universe u v

variable {Subject : Type u} {Verdict : Type v}

/-- A test together with the verdict it gives when it fires. -/
structure Guard (Subject : Type u) (Verdict : Type v) where
  fires : Subject → Prop
  verdict : Verdict

/-- No guard of the chain fires. -/
def Passes (chain : List (Guard Subject Verdict)) (subject : Subject) :
    Prop :=
  ∀ guard ∈ chain, ¬ guard.fires subject

/-- The verdict of the first guard that fires. -/
inductive Rejects (subject : Subject) :
    List (Guard Subject Verdict) → Verdict → Prop where
  | here {guard : Guard Subject Verdict}
      {rest : List (Guard Subject Verdict)} (fires : guard.fires subject) :
      Rejects subject (guard :: rest) guard.verdict
  | later {guard : Guard Subject Verdict}
      {rest : List (Guard Subject Verdict)} {verdict : Verdict}
      (silent : ¬ guard.fires subject)
      (rejects : Rejects subject rest verdict) :
      Rejects subject (guard :: rest) verdict

variable {chain : List (Guard Subject Verdict)} {subject : Subject}
  {verdict other : Verdict}

theorem passes_nil : Passes ([] : List (Guard Subject Verdict)) subject := by
  intro guard member
  contradiction

theorem passes_cons {guard : Guard Subject Verdict}
    (silent : ¬ guard.fires subject) (passes : Passes chain subject) :
    Passes (guard :: chain) subject := by
  intro tried member
  rcases List.mem_cons.mp member with rfl | later
  · exact silent
  · exact passes tried later

/-- A rejecting chain does not pass. -/
theorem Rejects.not_passes (rejects : Rejects subject chain verdict) :
    ¬ Passes chain subject := by
  intro passes
  induction rejects with
  | here fires => exact passes _ List.mem_cons_self fires
  | later silent rejects induction =>
      apply induction
      intro guard member
      exact passes guard (List.mem_cons_of_mem _ member)

/-- A chain rejects with one verdict only. -/
theorem Rejects.unique (first : Rejects subject chain verdict)
    (second : Rejects subject chain other) : verdict = other := by
  induction first with
  | here fires =>
      cases second with
      | here _ => rfl
      | later silent _ => exact absurd fires silent
  | later silent rejects induction =>
      cases second with
      | here fires => exact absurd fires silent
      | later _ rejects => exact induction rejects

/-- An answer that is the decision of a chain, `none` for what passes. -/
def Decides (chain : List (Guard Subject Verdict)) (subject : Subject) :
    Option Verdict → Prop
  | none => Passes chain subject
  | some verdict => Rejects subject chain verdict

theorem decides_nil :
    Decides ([] : List (Guard Subject Verdict)) subject none :=
  passes_nil

/-- A conditional whose test is the first guard decides the longer chain. -/
theorem decides_ite {guard : Guard Subject Verdict} {test : Prop}
    [Decidable test] {answer : Option Verdict}
    (same : test ↔ guard.fires subject)
    (rest : Decides chain subject answer) :
    Decides (guard :: chain) subject
      (if test then some guard.verdict else answer) := by
  split_ifs with fires
  · exact .here (same.mp fires)
  · have silent : ¬ guard.fires subject := mt same.mpr fires
    cases answer with
    | none => exact passes_cons silent rest
    | some verdict => exact .later silent rest

/-- The decision of a chain is `none` exactly on what passes. -/
theorem Decides.eq_none_iff {answer : Option Verdict}
    (decides : Decides chain subject answer) :
    answer = none ↔ Passes chain subject := by
  cases answer with
  | none => exact iff_of_true rfl decides
  | some given =>
      apply iff_of_false
      · simp
      · exact Rejects.not_passes decides

/-- The decision of a chain is the verdict with which it rejects. -/
theorem Decides.eq_some_iff {answer : Option Verdict}
    (decides : Decides chain subject answer) (verdict : Verdict) :
    answer = some verdict ↔ Rejects subject chain verdict := by
  cases answer with
  | none =>
      apply iff_of_false
      · simp
      · intro rejects
        exact rejects.not_passes decides
  | some given =>
      constructor
      · intro equal
        rw [← Option.some.inj equal]
        exact decides
      · intro rejects
        rw [Rejects.unique decides rejects]

end Llgw.Foundation.GuardChain
