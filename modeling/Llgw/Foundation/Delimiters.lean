import Mathlib.Data.List.Nodup
import Mathlib.Data.List.TakeWhile

/-!
# Scanning up to a delimiter

What a scanner that stops at a delimiter reads, and what it leaves, over
lists of any type.
-/

namespace Llgw.Foundation.Delimiters

universe u

variable {Symbol : Type u} [DecidableEq Symbol] {delimiter : Symbol}
  {content front : List Symbol}

theorem ne_of_not_mem (none : delimiter ∉ content) :
    ∀ symbol ∈ content, decide (symbol ≠ delimiter) = true := by
  intro symbol member
  rw [decide_eq_true_eq]
  rintro rfl
  exact none member

/-- Without a delimiter everything is read. -/
theorem takeWhile_of_not_mem (none : delimiter ∉ content) :
    content.takeWhile (· ≠ delimiter) = content :=
  List.takeWhile_eq_self_iff.mpr (ne_of_not_mem none)

theorem dropWhile_of_not_mem (none : delimiter ∉ content) :
    content.dropWhile (· ≠ delimiter) = [] :=
  List.dropWhile_eq_nil_iff.mpr (ne_of_not_mem none)

/-- The scanner reads up to the first delimiter. -/
theorem takeWhile_append_cons (none : delimiter ∉ front)
    (after : List Symbol) :
    (front ++ delimiter :: after).takeWhile (· ≠ delimiter) = front := by
  rw [List.takeWhile_append_of_pos (ne_of_not_mem none)]
  simp

/-- The scanner leaves what begins with the first delimiter. -/
theorem dropWhile_append_cons (none : delimiter ∉ front)
    (after : List Symbol) :
    (front ++ delimiter :: after).dropWhile (· ≠ delimiter) =
      delimiter :: after := by
  rw [List.dropWhile_append_of_pos (ne_of_not_mem none)]
  simp

/--
The induction rule for terminated pieces: a property holds of every list when
it holds of the empty one, of a last piece without its delimiter, and of what
follows a terminated piece only if of that piece in front of it too.
-/
theorem terminated_induction (delimiter : Symbol)
    {motive : List Symbol → Prop}
    (nil : motive [])
    (last : ∀ piece, piece ≠ [] → delimiter ∉ piece → motive piece)
    (terminated :
      ∀ piece rest, delimiter ∉ piece → motive rest →
        motive (piece ++ delimiter :: rest))
    (content : List Symbol) : motive content := by
  induction length : content.length using Nat.strong_induction_on
    generalizing content with
  | h size induction =>
      by_cases member : delimiter ∈ content
      · rcases List.eq_append_cons_of_mem member with
          ⟨piece, rest, rfl, none⟩
        apply terminated piece rest none
        apply induction rest.length _ rest rfl
        rw [← length, List.length_append, List.length_cons]
        omega
      · by_cases empty : content = []
        · rw [empty]
          exact nil
        · exact last content empty member

/-! ## Pieces between delimiters -/

/-- There is one more piece than there are delimiters. -/
theorem length_splitOn (content : List Symbol) :
    (content.splitOn delimiter).length = content.count delimiter + 1 := by
  induction content using terminated_induction delimiter with
  | nil => rfl
  | last piece _ none =>
      rw [List.splitOn_eq_singleton none,
        List.count_eq_zero_of_not_mem none]
      rfl
  | terminated piece rest none induction =>
      rw [List.splitOn_append_cons_self_of_not_mem none, List.length_cons,
        induction, List.count_append, List.count_eq_zero_of_not_mem none,
        List.count_cons_self, Nat.zero_add]

/-- No piece contains the delimiter. -/
theorem not_mem_of_mem_splitOn {piece : List Symbol}
    (member : piece ∈ content.splitOn delimiter) : delimiter ∉ piece := by
  induction content using terminated_induction delimiter with
  | nil =>
      rw [List.splitOn_nil, List.mem_singleton] at member
      rw [member]
      exact List.not_mem_nil
  | last content _ none =>
      rw [List.splitOn_eq_singleton none, List.mem_singleton] at member
      rwa [member]
  | terminated first rest none induction =>
      rw [List.splitOn_append_cons_self_of_not_mem none,
        List.mem_cons] at member
      rcases member with rfl | later
      · exact none
      · exact induction later

/-! ## Names of values -/

section Names

variable {Value : Type u}

/-- The first value of a table that has a name. -/
def valueOf (table : List Value) (name : Value → List Symbol)
    (given : List Symbol) : Option Value :=
  table.find? fun value => decide (name value = given)

omit [DecidableEq Symbol] in
/-- A complete table with distinct names names every value differently. -/
theorem injective_of_table {table : List Value}
    {name : Value → List Symbol} (complete : ∀ value, value ∈ table)
    (distinct : (table.map name).Nodup) : Function.Injective name := by
  intro left right equal
  exact
    List.inj_on_of_nodup_map distinct (complete left) (complete right) equal

/-- Distinct names determine their values. -/
theorem valueOf_name {table : List Value} {name : Value → List Symbol}
    (distinct : Function.Injective name) {value : Value}
    (listed : value ∈ table) :
    valueOf table name (name value) = some value := by
  have found : (valueOf table name (name value)).isSome = true := by
    rw [valueOf, List.find?_isSome]
    exact ⟨value, listed, decide_eq_true rfl⟩
  rcases Option.isSome_iff_exists.mp found with ⟨other, first⟩
  have same : name other = name value := by
    simpa using List.find?_some first
  rw [first, distinct same]

/-- The value whose name is read up to the delimiter, and what follows. -/
def readName (delimiter : Symbol) (table : List Value)
    (name : Value → List Symbol) (input : List Symbol) :
    Option (Value × List Symbol) :=
  (valueOf table name (input.takeWhile (· ≠ delimiter))).map fun value =>
    (value, input.dropWhile (· ≠ delimiter))

/-- Distinct names without the delimiter are read back. -/
theorem readName_append {table : List Value} {name : Value → List Symbol}
    (distinct : Function.Injective name) {value : Value}
    (listed : value ∈ table) (none : delimiter ∉ name value)
    (rest : List Symbol) :
    readName delimiter table name (name value ++ delimiter :: rest) =
      some (value, delimiter :: rest) := by
  rw [readName, takeWhile_append_cons none, dropWhile_append_cons none,
    valueOf_name distinct listed]
  rfl

end Names

end Llgw.Foundation.Delimiters
