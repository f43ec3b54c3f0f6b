import Llgw.Foundation.LoopRule
import Llgw.MarketDataGrammar

/-!
# The loop of the field splitter

`SplitCsvLine` of `market_data_parser.cpp` with its index, its position and
the array that it writes.  A `substr` past the end throws and a write past the
array is undefined, so both are faults here.  The loop is proved to end
without either, and to find the one way in which six fields without commas
can be joined to the line; `MarketDataParser.splitCsvLine` is its abstraction.
-/

namespace Llgw.CsvSplit

open Llgw.Foundation
open Llgw.Foundation.LoopRule
open Llgw.Messages
open Llgw.MarketDataParser (kExpectedFieldCount)

/-! ## The operations of the standard library -/

inductive Fault where
  /-- `std::out_of_range` -/
  | outOfRange
  /-- a write past the end of the array -/
  | outOfBounds
deriving DecidableEq

/-- `std::string_view::find` of a character, with `npos` as `none`. -/
def find (view : ByteString) (byte : UInt8) (position : Nat) : Option Nat :=
  ((view.drop position).findIdx? (· == byte)).map (position + ·)

/-- `std::string_view::substr`, with the count `npos` as `none`. -/
def substr (view : ByteString) (position : Nat) (count : Option Nat) :
    Except Fault ByteString :=
  if view.length < position then .error .outOfRange
  else
    match count with
    | none => .ok (view.drop position)
    | some count => .ok ((view.drop position).take count)

/-- `std::array<std::string_view, kExpectedFieldCount>`. -/
abbrev Fields := Vector ByteString kExpectedFieldCount

/-- `(*fields)[index] = field`. -/
def store (fields : Fields) (index : Nat) (field : ByteString) :
    Except Fault Fields :=
  if inside : index < kExpectedFieldCount then
    .ok (fields.set index field inside)
  else .error .outOfBounds

/-! ## The loop -/

/-- The locals of `SplitCsvLine`, its array, and the searches made so far. -/
structure SplitState where
  fields : Fields
  fieldIndex : Nat := 0
  start : Nat := 0
  searches : Nat := 0

/-- The body of the loop; a `break` is followed by the final comparison. -/
def pass (line : ByteString) (state : SplitState) :
    Except Fault (Pass SplitState Bool) :=
  if kExpectedFieldCount ≤ state.fieldIndex then .ok (.done state false)
  else
    match find line 44 state.start with
    | none => do
        let field ← substr line state.start none
        let fields ← store state.fields state.fieldIndex field
        let final :=
          { state with
            fields := fields
            fieldIndex := state.fieldIndex + 1
            searches := state.searches + 1 }
        return .done final (final.fieldIndex == kExpectedFieldCount)
    | some comma => do
        let field ← substr line state.start (some (comma - state.start))
        let fields ← store state.fields state.fieldIndex field
        return .again
          { fields := fields
            fieldIndex := state.fieldIndex + 1
            start := comma + 1
            searches := state.searches + 1 }

/--
`SplitCsvLine`, with its loop cut off after `fuel` passes.  The state that the
loop leaves is given with the result, unless the pointer is null.
-/
def splitCsvLine (fuel : Nat) (line : ByteString) (fields : Option Fields) :
    Option (Except Fault (Option SplitState × Bool)) :=
  match fields with
  | none => some (.ok (none, false))
  | some fields =>
      (run (pass line) fuel { fields := fields }).map
        (·.map fun (final, result) => (some final, result))

/-! ## What the operations do -/

section Operations

variable {line front after : ByteString} {position : Nat}

/-- The first comma is found after what precedes it. -/
theorem find_of_comma (rest : line.drop position = front ++ 44 :: after)
    (none : 44 ∉ front) :
    find line 44 position = some (position + front.length) := by
  have before : front.findIdx? (· == 44) = Option.none := by
    rw [List.findIdx?_eq_none_iff]
    intro byte member
    rw [beq_eq_false_iff_ne]
    rintro rfl
    exact none member
  have first :
      (front ++ 44 :: after).findIdx? (· == 44) = some front.length := by
    rw [List.findIdx?_append, before, List.findIdx?_cons]
    simp
  rw [find, rest, first, Option.map_some]

theorem find_of_not_mem (none : 44 ∉ line.drop position) :
    find line 44 position = Option.none := by
  rw [find, Option.map_eq_none_iff, List.findIdx?_eq_none_iff]
  intro byte member
  rw [beq_eq_false_iff_ne]
  rintro rfl
  exact none member

theorem substr_npos (inside : position ≤ line.length) :
    substr line position none = .ok (line.drop position) := by
  rw [substr, if_neg (Nat.not_lt.mpr inside)]

/-- The field in front of a comma. -/
theorem substr_of_comma (rest : line.drop position = front ++ 44 :: after) :
    substr line position (some (position + front.length - position)) =
      .ok front := by
  have inside : ¬ line.length < position := by
    intro outside
    rw [List.drop_of_length_le (Nat.le_of_lt outside)] at rest
    simp at rest
  rw [substr, if_neg inside, rest, Nat.add_sub_cancel_left]
  show Except.ok _ = _
  rw [List.take_left]

theorem store_of_lt (fields : Fields) {index : Nat} (field : ByteString)
    (inside : index < kExpectedFieldCount) :
    store fields index field = .ok (fields.set index field inside) := by
  rw [store, dif_pos inside]

/-- The slots filled so far are those filled before and the new one. -/
theorem take_set (fields : Fields) {index : Nat} (field : ByteString)
    (inside : index < kExpectedFieldCount) :
    (fields.set index field inside).toList.take (index + 1) =
      fields.toList.take index ++ [field] := by
  rw [Vector.toList_set, List.take_add_one, List.take_set_of_le le_rfl,
    List.getElem?_set_self (by simpa using inside)]
  rfl

end Operations

/-! ## The invariant -/

/--
Before a pass, the fields found so far and the fields of the rest are the
fields of the line.
-/
structure Scanning (line : ByteString) (state : SplitState) : Prop where
  searches : state.searches = state.fieldIndex
  index : state.fieldIndex ≤ kExpectedFieldCount
  start : state.start ≤ line.length
  fields :
    state.fields.toList.take state.fieldIndex ++
        (line.drop state.start).splitOn 44 =
      line.splitOn 44

/-- What the loop leaves. -/
structure Scanned (line : ByteString) (final : SplitState) (result : Bool) :
    Prop where
  searches : final.searches ≤ kExpectedFieldCount
  start : final.start ≤ line.length
  count :
    result = true ↔ (line.splitOn 44).length = kExpectedFieldCount
  fields : result = true → final.fields.toList = line.splitOn 44

theorem scanning_entry (line : ByteString) (fields : Fields) :
    Scanning line { fields := fields } where
  searches := rfl
  index := Nat.zero_le _
  start := Nat.zero_le _
  fields := rfl

section Passes

variable {line : ByteString} {state : SplitState}

/-- With all fields found, the rest of the line is one too many. -/
theorem pass_of_full (scanning : Scanning line state)
    (full : kExpectedFieldCount ≤ state.fieldIndex) :
    pass line state = .ok (.done state false) ∧
      Scanned line state false := by
  constructor
  · rw [pass, if_pos full]
  · have exact : state.fieldIndex = kExpectedFieldCount :=
      le_antisymm scanning.index full
    have more : kExpectedFieldCount < (line.splitOn 44).length := by
      have rest :=
        List.length_pos_of_ne_nil
          (List.splitOn_ne_nil (44 : UInt8) (line.drop state.start))
      rw [← scanning.fields, exact, List.length_append, List.length_take,
        Vector.length_toList, min_self]
      exact Nat.lt_add_of_pos_right rest
    constructor
    case searches => rw [scanning.searches, exact]
    case start => exact scanning.start
    case count =>
      apply iff_of_false Bool.false_ne_true
      exact Nat.ne_of_gt more
    case fields => exact fun accepted => absurd accepted Bool.false_ne_true

/-- Without a comma, the rest of the line is the last field. -/
theorem pass_of_last (scanning : Scanning line state)
    (space : state.fieldIndex < kExpectedFieldCount)
    (none : 44 ∉ line.drop state.start) :
    ∃ final result,
      pass line state = .ok (.done final result) ∧
        Scanned line final result := by
  refine ⟨
    { fields := state.fields.set state.fieldIndex
        (line.drop state.start) space
      fieldIndex := state.fieldIndex + 1
      start := state.start
      searches := state.searches + 1 },
    state.fieldIndex + 1 == kExpectedFieldCount, ?_, ?_⟩
  · rw [pass, if_neg (Nat.not_le.mpr space), find_of_not_mem none]
    simp only [substr_npos scanning.start, store_of_lt _ _ space]
    rfl
  · have found :
        (state.fields.set state.fieldIndex
            (line.drop state.start) space).toList.take
            (state.fieldIndex + 1) =
          line.splitOn 44 := by
      rw [take_set, ← scanning.fields, List.splitOn_eq_singleton none]
    have length : (line.splitOn 44).length = state.fieldIndex + 1 := by
      rw [← found, List.length_take, Vector.length_toList,
        min_eq_left space]
    constructor
    case searches =>
      show state.searches + 1 ≤ kExpectedFieldCount
      rw [scanning.searches]
      exact space
    case start => exact scanning.start
    case count => rw [length, beq_iff_eq]
    case fields =>
      intro accepted
      rw [beq_iff_eq] at accepted
      rw [← found, accepted, List.take_of_length_le]
      rw [Vector.length_toList]

/-- A comma ends a field, and the next one begins after it. -/
theorem pass_of_comma (scanning : Scanning line state)
    (space : state.fieldIndex < kExpectedFieldCount)
    (comma : 44 ∈ line.drop state.start) :
    ∃ next,
      pass line state = .ok (.again next) ∧ Scanning line next ∧
        next.fieldIndex = state.fieldIndex + 1 := by
  rcases List.eq_append_cons_of_mem comma with ⟨front, after, rest, none⟩
  have length :
      line.length = state.start + (front.length + 1 + after.length) := by
    have sizes := congrArg List.length rest
    simp only [List.length_drop, List.length_append,
      List.length_cons] at sizes
    have := scanning.start
    omega
  have left : line.drop (state.start + front.length + 1) = after := by
    rw [Nat.add_assoc, ← List.drop_drop, rest, ← List.drop_drop,
      List.drop_left]
    rfl
  refine ⟨
    { fields := state.fields.set state.fieldIndex front space
      fieldIndex := state.fieldIndex + 1
      start := state.start + front.length + 1
      searches := state.searches + 1 }, ?_, ?_, rfl⟩
  · rw [pass, if_neg (Nat.not_le.mpr space), find_of_comma rest none]
    simp only [substr_of_comma rest, store_of_lt _ _ space]
    rfl
  · constructor
    case searches => exact congrArg (· + 1) scanning.searches
    case index => exact space
    case start =>
      show state.start + front.length + 1 ≤ line.length
      omega
    case fields =>
      show _ ++ (line.drop (state.start + front.length + 1)).splitOn 44 = _
      rw [take_set, left, ← scanning.fields, rest,
        List.splitOn_append_cons_self_of_not_mem none, List.append_assoc]
      rfl

/-- Every pass of the loop keeps the invariant or meets its purpose. -/
theorem pass_respects (scanning : Scanning line state) :
    Respects (Scanning line)
      (fun state => kExpectedFieldCount - state.fieldIndex)
      (Scanned line) state (pass line state) := by
  rcases Nat.lt_or_ge state.fieldIndex kExpectedFieldCount with
    space | full
  · by_cases comma : 44 ∈ line.drop state.start
    · rcases pass_of_comma scanning space comma with
        ⟨next, passed, kept, advanced⟩
      rw [passed]
      apply Respects.again kept
      omega
    · rcases pass_of_last scanning space comma with
        ⟨final, result, passed, scanned⟩
      rw [passed]
      exact Respects.done scanned
  · rcases pass_of_full scanning full with ⟨passed, scanned⟩
    rw [passed]
    exact Respects.done scanned

end Passes

/-! ## The whole loop -/

/-- Six passes fill the array, and a seventh fails. -/
theorem splitCsvLine_scanned (line : ByteString) (fields : Fields) :
    ∃ final result,
      (∀ fuel, kExpectedFieldCount < fuel →
        splitCsvLine fuel line (some fields) =
          some (.ok (some final, result))) ∧
      Scanned line final result := by
  rcases run_total (fun _ => pass_respects) _
    (scanning_entry line fields) with ⟨final, result, ends, scanned⟩
  refine ⟨final, result, ?_, scanned⟩
  intro fuel enough
  rw [splitCsvLine, ends fuel enough]
  rfl

/-- What the caller reads: the array of a call that succeeded. -/
def acceptedFields : Option SplitState × Bool → Option (List ByteString)
  | (some final, true) => some final.fields.toList
  | _ => none

/-- The loop computes the fields of the parser's model. -/
theorem splitCsvLine_refines {fuel : Nat}
    (enough : kExpectedFieldCount < fuel) (line : ByteString)
    (fields : Fields) :
    (splitCsvLine fuel line (some fields)).map (·.map acceptedFields) =
      some (.ok (MarketDataParser.splitCsvLine line)) := by
  rcases splitCsvLine_scanned line fields with
    ⟨final, result, ends, scanned⟩
  rw [ends fuel enough, MarketDataParser.splitCsvLine,
    MarketDataGrammar.splitLoop_eq, ← Delimiters.length_splitOn]
  show some (Except.ok (acceptedFields (some final, result))) = _
  cases result with
  | false =>
      rw [if_neg fun six => absurd (scanned.count.mpr six) (by decide)]
      rfl
  | true =>
      rw [if_pos (scanned.count.mp rfl), ← scanned.fields rfl]
      rfl

example :
    (splitCsvLine 7 [44, 65, 44, 44, 66, 44, 44]
        (some (.replicate _ []))).map (·.map acceptedFields) =
      some (.ok (some [[], [65], [], [66], [], []])) := by
  decide

/-! ## Decompositions -/

/-- Fields without commas that make up the line when joined by commas. -/
structure Decomposition (line : ByteString) (pieces : List ByteString) :
    Prop where
  clean : ∀ piece ∈ pieces, 44 ∉ piece
  joined : [44].intercalate pieces = line

theorem decomposition_splitOn (line : ByteString) :
    Decomposition line (line.splitOn 44) where
  clean _ member := Delimiters.not_mem_of_mem_splitOn member
  joined := List.intercalate_splitOn 44

/-- A line that is not empty has no other decomposition. -/
theorem Decomposition.eq_splitOn {line : ByteString}
    {pieces : List ByteString} (decomposition : Decomposition line pieces)
    (filled : line ≠ []) : pieces = line.splitOn 44 := by
  have nonempty : pieces ≠ [] := by
    rintro rfl
    exact filled decomposition.joined.symm
  rw [← decomposition.joined,
    List.splitOn_intercalate 44 decomposition.clean nonempty]

/--
`SplitCsvLine` splits exactly: the loop ends, without a fault of `substr` or
of the array, after at most six searches, never starts past the end of the
line, accepts the lines with five commas, and leaves the only decomposition of
an accepted line in the array.
-/
theorem splitCsvLine_exact (line : ByteString) (fields : Fields) :
    ∃ (final : SplitState) (result : Bool),
      (∀ fuel, 6 < fuel →
        splitCsvLine fuel line (some fields) =
          some (.ok (some final, result))) ∧
      final.searches ≤ 6 ∧ final.start ≤ line.length ∧
      (∀ state, Reached (pass line) { fields := fields } state →
        state.start ≤ line.length) ∧
      (result = true ↔ line.count 44 = 5) ∧
      (result = true →
        Decomposition line final.fields.toList ∧
          ∀ pieces, Decomposition line pieces →
            pieces = final.fields.toList) := by
  rcases splitCsvLine_scanned line fields with
    ⟨final, result, ends, scanned⟩
  have commas : result = true ↔ line.count 44 = 5 := by
    rw [scanned.count, Delimiters.length_splitOn]
    exact Nat.succ_inj
  refine ⟨final, result, ends, scanned.searches, scanned.start, ?_, commas,
    ?_⟩
  · intro state reached
    have scanning : Scanning line state :=
      reached.invariant (fun _ => pass_respects)
        (scanning_entry line fields)
    exact scanning.start
  · intro accepted
    rw [scanned.fields accepted]
    refine ⟨decomposition_splitOn line, ?_⟩
    intro pieces decomposition
    apply decomposition.eq_splitOn
    rintro rfl
    exact absurd (commas.mp accepted) (by decide)

end Llgw.CsvSplit
