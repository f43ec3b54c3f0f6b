import Mathlib.Computability.RegularExpressions

/-!
# Paths of partial automata

A partial automaton refuses a letter by having no next state.  This module
defines the state at the end of a word, and the certificate rule that bounds
the words of an automaton by a language for each of its states.
-/

namespace Llgw.Foundation.PartialAutomaton

universe u v

variable {State : Type u} {Letter : Type v}

/-- The state at the end of a word, unless a letter is refused. -/
def path (advance : State → Letter → Option State) (state : State)
    (word : List Letter) : Option State :=
  word.foldlM advance state

variable {advance : State → Letter → Option State}

@[simp]
theorem path_nil (state : State) : path advance state [] = some state :=
  rfl

/-- One more letter. -/
theorem path_concat (state : State) (word : List Letter)
    (letter : Letter) :
    path advance state (word ++ [letter]) =
      (path advance state word).bind fun middle =>
        advance middle letter := by
  rw [path, List.foldlM_append]
  simp only [List.foldlM_cons, List.foldlM_nil, bind_pure]
  rfl

/--
The certificate rule: languages that contain the word read so far and grow
with every letter contain every word the automaton reads.
-/
theorem path_mem
    (words : State → Language Letter)
    (grows :
      ∀ state letter next word,
        advance state letter = some next → word ∈ words state →
          word ++ [letter] ∈ words next)
    (start : State) (past : List Letter) (known : past ∈ words start)
    (word : List Letter) {final : State}
    (reaches : path advance start word = some final) :
    past ++ word ∈ words final := by
  induction word using List.reverseRecOn generalizing final with
  | nil =>
      rw [path_nil] at reaches
      cases reaches
      rwa [List.append_nil]
  | append_singleton word letter induction =>
      rw [path_concat] at reaches
      obtain ⟨middle, before, last⟩ :=
        Option.bind_eq_some_iff.mp reaches
      rw [← List.append_assoc]
      exact grows middle letter final _ last (induction before)

/-- One more round of an iterated language. -/
theorem append_mem_star {expression : RegularExpression Letter}
    {word round : List Letter}
    (rounds : word ∈ expression.star.matches')
    (one : round ∈ expression.matches') :
    word ++ round ∈ expression.star.matches' := by
  rw [RegularExpression.matches'_star,
    ← Language.one_add_kstar_mul_self_eq_kstar, Language.mem_add]
  rw [RegularExpression.matches'_star] at rounds
  exact Or.inr (Language.append_mem_mul rounds one)

theorem nil_mem_star (expression : RegularExpression Letter) :
    [] ∈ expression.star.matches' := by
  rw [RegularExpression.matches'_star]
  exact Language.nil_mem_kstar _

/-- One more letter of a product. -/
theorem append_mem_mul_char {expression : RegularExpression Letter}
    {word : List Letter} (member : word ∈ expression.matches')
    (letter : Letter) :
    word ++ [letter] ∈ (expression * .char letter).matches' :=
  Language.append_mem_mul member rfl

end Llgw.Foundation.PartialAutomaton
