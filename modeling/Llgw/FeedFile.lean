import Llgw.FeedReplay
import Llgw.Foundation.Delimiters

/-!
# Replay of a file

`ReplayMarketDataFile` reads its lines with `std::getline`.  Here a file is
its bytes, and the loop takes one line after the other from what is still to
be read.  It delivers the longest prefix of lines that parse, and reads no
further than the first line that does not.
-/

namespace Llgw.FeedFile

open Llgw.Foundation
open Llgw.Foundation.Delimiters
open Llgw.Messages
open Llgw.MarketDataParser
open Llgw.FeedReplay

/-! ## Lines of a file -/

/--
`std::getline`: the bytes in front of the next newline, and what follows it.
It fails at the end of the input, but not on an unterminated last line.
-/
def getline (input : ByteString) : Option (ByteString × ByteString) :=
  if input = [] then none
  else
    some (input.takeWhile (· ≠ 10), (input.dropWhile (· ≠ 10)).tail)

theorem getline_length {input line rest : ByteString}
    (read : getline input = some (line, rest)) :
    rest.length < input.length := by
  unfold getline at read
  split_ifs at read with empty
  cases read
  have some := List.length_pos_iff.mpr empty
  have left := (List.dropWhile_sublist (l := input) (· ≠ 10)).length_le
  rw [List.length_tail]
  omega

/-- The lines that `std::getline` delivers until it fails. -/
def fileLines (input : ByteString) : List ByteString :=
  match _read : getline input with
  | none => []
  | some (line, rest) => line :: fileLines rest
termination_by input.length
decreasing_by exact getline_length _read

variable {line rest : ByteString}

theorem getline_terminated (none : 10 ∉ line) (rest : ByteString) :
    getline (line ++ 10 :: rest) = some (line, rest) := by
  rw [getline, if_neg (by simp), takeWhile_append_cons none,
    dropWhile_append_cons none, List.tail_cons]

theorem getline_last (filled : line ≠ []) (none : 10 ∉ line) :
    getline line = some (line, []) := by
  rw [getline, if_neg filled, takeWhile_of_not_mem none,
    dropWhile_of_not_mem none, List.tail_nil]

@[simp]
theorem fileLines_nil : fileLines [] = [] := by
  rw [fileLines]
  rfl

theorem fileLines_terminated (none : 10 ∉ line) (rest : ByteString) :
    fileLines (line ++ 10 :: rest) = line :: fileLines rest := by
  rw [fileLines, getline_terminated none]

/-- An unterminated last line counts, unless it is empty. -/
theorem fileLines_last (filled : line ≠ []) (none : 10 ∉ line) :
    fileLines line = [line] := by
  rw [fileLines, getline_last filled none]
  simp

theorem eq_nil_of_fileLines {input : ByteString}
    (none : fileLines input = []) : input = [] := by
  by_contra filled
  rw [fileLines, getline, if_neg filled] at none
  contradiction

theorem getline_of_fileLines {input : ByteString}
    {lines : List ByteString} (found : fileLines input = line :: lines) :
    ∃ rest, getline input = some (line, rest) ∧ fileLines rest = lines := by
  rw [fileLines] at found
  split at found
  · contradiction
  · rename_i first rest read
    cases found
    exact ⟨rest, read, rfl⟩

/-! ## The loop over a file -/

universe u

variable {State : Type u}

/--
The loop of `ReplayMarketDataFile` over what is still to be read.  It returns
the result, the state that the callback has left, and what it has not read.
-/
def replayInput (onUpdate : Option (MarketDataCallback State))
    (result : FeedReplayResult) (state : State) (input : ByteString) :
    FeedReplayResult × State × ByteString :=
  match _read : getline input with
  | none => ({ result with status := .ok }, state, input)
  | some (line, rest) =>
      let result := { result with linesRead := result.linesRead + 1 }
      let parseResult := parseMarketDataLine line
      if parseResult.status ≠ .ok then
        ({ result with
            status := .parseError
            errorLine := result.linesRead
            parseStatus := parseResult.status }, state, rest)
      else
        let state :=
          match onUpdate with
          | some callback => callback state parseResult.update
          | none => state
        replayInput onUpdate
          { result with updatesParsed := result.updatesParsed + 1 } state
          rest
termination_by input.length
decreasing_by exact getline_length _read

/-- `ReplayMarketDataFile` on a file that can be opened and read. -/
def replayContent (onUpdate : Option (MarketDataCallback State))
    (content : ByteString) (state : State) :
    FeedReplayResult × State × ByteString :=
  replayInput onUpdate {} state content

/-- The calls of the callback, if there is one, for lines that all parse. -/
def invoked (onUpdate : Option (MarketDataCallback State)) (state : State)
    (lines : List ByteString) : State :=
  match onUpdate with
  | some callback => deliver callback state lines
  | none => state

section Loop

variable (onUpdate : Option (MarketDataCallback State))
  (result : FeedReplayResult) (state : State)

theorem replayInput_nil :
    replayInput onUpdate result state [] =
      ({ result with status := .ok }, state, []) := by
  rw [replayInput]
  rfl

/-- The loop stops behind a line that does not parse. -/
theorem replayInput_of_not_parses {input : ByteString}
    (read : getline input = some (line, rest)) (bad : ¬ Parses line) :
    replayInput onUpdate result state input =
      ({ result with
          status := .parseError
          linesRead := result.linesRead + 1
          errorLine := result.linesRead + 1
          parseStatus := (parseMarketDataLine line).status },
        state, rest) := by
  rw [replayInput, read]
  exact if_pos bad

/-- The loop delivers a line that parses and goes on. -/
theorem replayInput_of_parses {input : ByteString}
    (read : getline input = some (line, rest)) (parses : Parses line) :
    replayInput onUpdate result state input =
      replayInput onUpdate (result.advance 1)
        (invoked onUpdate state [line]) rest := by
  rw [replayInput, read]
  apply (if_neg (not_not.mpr parses)).trans
  cases onUpdate <;> rfl

theorem invoked_append (before after : List ByteString) :
    invoked onUpdate (invoked onUpdate state before) after =
      invoked onUpdate state (before ++ after) := by
  cases onUpdate with
  | none => rfl
  | some callback =>
      simp only [invoked, deliver, List.map_append, List.foldl_append]

/-- Lines that parse are delivered, and the loop goes on behind them. -/
theorem replayInput_append {input : ByteString}
    {before after : List ByteString}
    (read : fileLines input = before ++ after)
    (parse : ∀ line ∈ before, Parses line) :
    ∃ rest, fileLines rest = after ∧
      replayInput onUpdate result state input =
        replayInput onUpdate (result.advance before.length)
          (invoked onUpdate state before) rest := by
  induction before generalizing input result state with
  | nil =>
      refine ⟨input, read, ?_⟩
      cases onUpdate <;> rfl
  | cons line before induction =>
      rw [List.forall_mem_cons] at parse
      rcases getline_of_fileLines read with ⟨rest, first, later⟩
      rcases
          induction (result.advance 1) (invoked onUpdate state [line]) later
            parse.2 with
        ⟨unread, remaining, replayed⟩
      refine ⟨unread, remaining, ?_⟩
      rw [replayInput_of_parses onUpdate result state first parse.1,
        replayed, invoked_append]
      congr 1
      simp only [FeedReplayResult.advance, List.length_cons]
      congr 1 <;> omega

/-- The loop over a file is the loop over its lines. -/
theorem replayInput_eq_replayLoop (input : ByteString) :
    ((replayInput onUpdate result state input).1,
        (replayInput onUpdate result state input).2.1) =
      replayLoop onUpdate result state (fileLines input) := by
  generalize read : fileLines input = lines
  induction lines generalizing input result state with
  | nil =>
      rw [eq_nil_of_fileLines read, replayInput_nil]
      rfl
  | cons line lines induction =>
      rcases getline_of_fileLines read with ⟨rest, first, later⟩
      by_cases parses : Parses line
      · have accepted : ¬ (parseMarketDataLine line).status ≠ .ok :=
          not_not.mpr parses
        rw [replayLoop.eq_def]
        simp only [if_neg accepted]
        rw [replayInput_of_parses onUpdate result state first parses,
          induction (result.advance 1) _ rest later]
        cases onUpdate <;> rfl
      · have refused : (parseMarketDataLine line).status ≠ .ok := parses
        rw [replayLoop.eq_def]
        simp only [if_pos refused]
        rw [replayInput_of_not_parses onUpdate result state first parses]

/-- A file whose lines all parse is delivered and read whole. -/
theorem replayInput_of_all {input : ByteString}
    (parse : ∀ line ∈ fileLines input, Parses line) :
    replayInput onUpdate result state input =
      ({ result.advance (fileLines input).length with status := .ok },
        invoked onUpdate state (fileLines input), []) := by
  rcases
      replayInput_append onUpdate result state
        (List.append_nil (fileLines input)).symm parse with
    ⟨rest, none, replayed⟩
  rw [replayed, eq_nil_of_fileLines none, replayInput_nil]

/-- A file is delivered and read up to the first line that does not parse. -/
theorem replayInput_of_first {input : ByteString}
    {before after : List ByteString} {line : ByteString}
    (read : fileLines input = before ++ line :: after)
    (parse : ∀ earlier ∈ before, Parses earlier) (bad : ¬ Parses line) :
    ∃ unread, fileLines unread = after ∧
      replayInput onUpdate result state input =
        ({ result.advance before.length with
            status := .parseError
            linesRead := result.linesRead + before.length + 1
            errorLine := result.linesRead + before.length + 1
            parseStatus := (parseMarketDataLine line).status },
          invoked onUpdate state before, unread) := by
  rcases replayInput_append onUpdate result state read parse with
    ⟨rest, remaining, replayed⟩
  rcases getline_of_fileLines remaining with ⟨unread, first, later⟩
  refine ⟨unread, later, ?_⟩
  rw [replayed, replayInput_of_not_parses onUpdate _ _ first bad]
  rfl

end Loop

/-! ## Carriage returns -/

/-- Every newline of a file becomes a carriage return and a newline. -/
def withCarriageReturns (content : ByteString) : ByteString :=
  content.flatMap fun byte => if byte = 10 then [13, 10] else [byte]

theorem withCarriageReturns_of_not_mem (none : 10 ∉ line) :
    withCarriageReturns line = line := by
  induction line with
  | nil => rfl
  | cons byte line induction =>
      rw [List.mem_cons, not_or] at none
      have other : byte ≠ 10 := fun newline => none.1 newline.symm
      have later := induction none.2
      unfold withCarriageReturns at later ⊢
      rw [List.flatMap_cons, if_neg other, later]
      rfl

theorem withCarriageReturns_terminated (none : 10 ∉ line)
    (rest : ByteString) :
    withCarriageReturns (line ++ 10 :: rest) =
      (line ++ [13]) ++ 10 :: withCarriageReturns rest := by
  have first := withCarriageReturns_of_not_mem none
  unfold withCarriageReturns at first ⊢
  rw [List.flatMap_append, first, List.flatMap_cons, if_pos rfl]
  simp

/-- The parser drops one carriage return before it looks at a line. -/
theorem parse_returned (none : 13 ∉ line) :
    parseMarketDataLine (line ++ [13]) = parseMarketDataLine line := by
  have returned : stripTrailingCarriageReturn (line ++ [13]) = line := by
    simp [stripTrailingCarriageReturn]
  have kept : stripTrailingCarriageReturn line = line := by
    rw [stripTrailingCarriageReturn, if_neg]
    intro last
    exact none (List.mem_of_getLast? last)
  rw [parseMarketDataLine, parseMarketDataLine, returned, kept]

/-- The lines of both files are parsed alike. -/
theorem fileLines_withCarriageReturns {content : ByteString}
    (none : 13 ∉ content) :
    List.Forall₂
      (fun line returned =>
        parseMarketDataLine returned = parseMarketDataLine line)
      (fileLines content) (fileLines (withCarriageReturns content)) := by
  induction content using terminated_induction (10 : UInt8) with
  | nil =>
      have empty : withCarriageReturns [] = [] := rfl
      rw [empty, fileLines_nil]
      exact .nil
  | last piece filled noNewline =>
      rw [withCarriageReturns_of_not_mem noNewline,
        fileLines_last filled noNewline]
      exact .cons rfl .nil
  | terminated piece rest noNewline induction =>
      rw [List.mem_append, List.mem_cons, not_or, not_or] at none
      rcases none with ⟨first, _, later⟩
      have returned : 10 ∉ piece ++ [13] := by
        simpa using noNewline
      rw [withCarriageReturns_terminated noNewline,
        fileLines_terminated noNewline, fileLines_terminated returned]
      exact .cons (parse_returned first) (induction later)

/-- The loop looks at its lines only through the parser. -/
theorem replayInput_congr
    (onUpdate : Option (MarketDataCallback State))
    {input input' : ByteString}
    (alike :
      List.Forall₂
        (fun line other =>
          parseMarketDataLine other = parseMarketDataLine line)
        (fileLines input) (fileLines input'))
    (result : FeedReplayResult) (state : State) :
    (replayInput onUpdate result state input').1 =
        (replayInput onUpdate result state input).1 ∧
      (replayInput onUpdate result state input').2.1 =
        (replayInput onUpdate result state input).2.1 := by
  generalize read : fileLines input = lines at alike
  generalize read' : fileLines input' = lines' at alike
  induction alike generalizing input input' result state with
  | nil =>
      rw [eq_nil_of_fileLines read, eq_nil_of_fileLines read']
      exact ⟨rfl, rfl⟩
  | @cons line line' _ _ same _ induction =>
      rcases getline_of_fileLines read with ⟨rest, first, later⟩
      rcases getline_of_fileLines read' with ⟨rest', first', later'⟩
      by_cases parses : Parses line
      · have parses' : Parses line' := by
          rw [Parses, same]
          exact parses
        have delivered :
            invoked onUpdate state [line'] =
              invoked onUpdate state [line] := by
          cases onUpdate with
          | none => rfl
          | some callback =>
              show callback state (parseMarketDataLine line').update = _
              rw [same]
              rfl
        rw [replayInput_of_parses onUpdate result state first parses,
          replayInput_of_parses onUpdate result state first' parses',
          delivered]
        exact induction _ _ later later'
      · have bad : ¬ Parses line' := by
          rw [Parses, same]
          exact parses
        rw [replayInput_of_not_parses onUpdate result state first parses,
          replayInput_of_not_parses onUpdate result state first' bad, same]
        exact ⟨rfl, rfl⟩

/-! ## What a replay of a file delivers -/

/-- A replay of a file is the replay of its lines. -/
theorem replayContent_eq_replayMarketDataFile
    (onUpdate : Option (MarketDataCallback State)) (content : ByteString)
    (state : State) :
    ((replayContent onUpdate content state).1,
        (replayContent onUpdate content state).2.1) =
      replayMarketDataFile onUpdate (some (fileLines content)) state :=
  replayInput_eq_replayLoop onUpdate {} state content

/--
A replay delivers the longest prefix of lines that parse.  If a line does not
parse, the replay reports the first such line and reads no further.  Carriage
returns in front of the newlines change nothing.
-/
theorem replay_longest_valid_prefix
    (onUpdate : Option (MarketDataCallback State))
    (content : ByteString) (state : State) :
    ((∀ line ∈ fileLines content, Parses line) →
      replayContent onUpdate content state =
        ({ status := .ok
           linesRead := (fileLines content).length
           updatesParsed := (fileLines content).length
           errorLine := 0 },
          invoked onUpdate state (fileLines content), [])) ∧
      (∀ before line after,
        fileLines content = before ++ line :: after →
          (∀ earlier ∈ before, Parses earlier) → ¬ Parses line →
            ∃ unread, fileLines unread = after ∧
              replayContent onUpdate content state =
                ({ status := .parseError
                   linesRead := before.length + 1
                   updatesParsed := before.length
                   errorLine := before.length + 1
                   parseStatus := (parseMarketDataLine line).status },
                  invoked onUpdate state before, unread)) ∧
      (13 ∉ content →
        let plain := replayContent onUpdate content state
        let returned :=
          replayContent onUpdate (withCarriageReturns content) state
        returned.1 = plain.1 ∧ returned.2.1 = plain.2.1) := by
  constructor
  · intro parse
    rw [replayContent, replayInput_of_all onUpdate {} state parse]
    simp only [FeedReplayResult.advance, Nat.zero_add]
  constructor
  · intro before line after read parse bad
    rcases replayInput_of_first onUpdate {} state read parse bad with
      ⟨unread, remaining, replayed⟩
    refine ⟨unread, remaining, ?_⟩
    rw [replayContent, replayed]
    simp only [FeedReplayResult.advance, Nat.zero_add]
  · intro none
    exact
      replayInput_congr onUpdate (fileLines_withCarriageReturns none) {} state

end Llgw.FeedFile
