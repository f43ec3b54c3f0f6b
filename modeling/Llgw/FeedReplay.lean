import Llgw.MarketDataParser

/-!
# Feed replay

`ReplayMarketDataFile` of `feed_replay.hpp` and `feed_replay.cpp`.  A file is
the lines that `std::getline` delivers, and is absent when it cannot be
opened.  The callback may be empty; what it does is a change of the state of
whoever passes it.
-/

namespace Llgw.FeedReplay

open Llgw.Messages
open Llgw.MarketDataParser

inductive FeedReplayStatus where
  | ok
  | fileOpenFailed
  | parseError
deriving DecidableEq, Repr

/-- `ToString(FeedReplayStatus)`. -/
def FeedReplayStatus.toString : FeedReplayStatus → ByteString
  | .ok => text "ok"
  | .fileOpenFailed => text "file_open_failed"
  | .parseError => text "parse_error"

structure FeedReplayResult where
  status : FeedReplayStatus := .fileOpenFailed
  linesRead : Nat := 0
  updatesParsed : Nat := 0
  errorLine : Nat := 0
  parseStatus : ParseStatus := .ok
deriving DecidableEq

universe u

variable {State : Type u}

/-- `MarketDataCallback`, over the state that it changes. -/
abbrev MarketDataCallback (State : Type u) :=
  State → MarketDataUpdate → State

/-- The loop of `ReplayMarketDataFile`. -/
def replayLoop (onUpdate : Option (MarketDataCallback State)) :
    FeedReplayResult → State → List ByteString → FeedReplayResult × State
  | result, state, [] => ({ result with status := .ok }, state)
  | result, state, line :: rest =>
      let result := { result with linesRead := result.linesRead + 1 }
      let parseResult := parseMarketDataLine line
      if parseResult.status ≠ .ok then
        ({ result with
            status := .parseError
            errorLine := result.linesRead
            parseStatus := parseResult.status }, state)
      else
        let state :=
          match onUpdate with
          | some callback => callback state parseResult.update
          | none => state
        replayLoop onUpdate
          { result with updatesParsed := result.updatesParsed + 1 } state
          rest

/-- `ReplayMarketDataFile`. -/
def replayMarketDataFile (onUpdate : Option (MarketDataCallback State))
    (file : Option (List ByteString)) (state : State) :
    FeedReplayResult × State :=
  match file with
  | none => ({}, state)
  | some lines => replayLoop onUpdate {} state lines

/-! ## What a replay does -/

/-- A line that `ParseMarketDataLine` accepts. -/
def Parses (line : ByteString) : Prop :=
  (parseMarketDataLine line).status = .ok

instance (line : ByteString) : Decidable (Parses line) :=
  inferInstanceAs (Decidable (_ = _))

/-- The update of a line. -/
def updateOf (line : ByteString) : MarketDataUpdate :=
  (parseMarketDataLine line).update

section Callback

variable (callback : MarketDataCallback State)

/-- The calls of the callback for lines that all parse. -/
def deliver (state : State) (lines : List ByteString) : State :=
  (lines.map updateOf).foldl callback state

/-- The result after this many more lines that parse. -/
def FeedReplayResult.advance (result : FeedReplayResult) (count : Nat) :
    FeedReplayResult :=
  { result with
    linesRead := result.linesRead + count
    updatesParsed := result.updatesParsed + count }

/-- Lines that parse are delivered, and the loop goes on behind them. -/
theorem replayLoop_append (result : FeedReplayResult) (state : State)
    {lines : List ByteString} (parse : ∀ line ∈ lines, Parses line)
    (rest : List ByteString) :
    replayLoop (some callback) result state (lines ++ rest) =
      replayLoop (some callback) (result.advance lines.length)
        (deliver callback state lines) rest := by
  induction lines generalizing result state with
  | nil => rfl
  | cons line lines induction =>
      rw [List.forall_mem_cons] at parse
      have first : ¬ (parseMarketDataLine line).status ≠ .ok :=
        Classical.not_not.mpr parse.1
      rw [List.cons_append, replayLoop, if_neg first,
        induction _ _ parse.2, deliver, deliver, List.map_cons,
        List.foldl_cons]
      congr 1
      simp only [FeedReplayResult.advance, List.length_cons]
      rw [Nat.add_right_comm, Nat.add_right_comm _ 1]
      rfl

/-- A file whose lines all parse is delivered whole. -/
theorem replay_of_parses (state : State) {lines : List ByteString}
    (parse : ∀ line ∈ lines, Parses line) :
    replayMarketDataFile (some callback) (some lines) state =
      ({ status := .ok
         linesRead := lines.length
         updatesParsed := lines.length },
        deliver callback state lines) := by
  have whole := replayLoop_append callback {} state parse []
  rw [List.append_nil] at whole
  rw [replayMarketDataFile, whole, replayLoop]
  simp only [FeedReplayResult.advance, Nat.zero_add]

/--
A file with a line that does not parse is delivered up to the first such
line, whose number is reported.
-/
theorem replay_of_error (state : State) {lines rest : List ByteString}
    {line : ByteString} (parse : ∀ line ∈ lines, Parses line)
    (bad : ¬ Parses line) :
    replayMarketDataFile (some callback) (some (lines ++ line :: rest))
        state =
      ({ status := .parseError
         linesRead := lines.length + 1
         updatesParsed := lines.length
         errorLine := lines.length + 1
         parseStatus := (parseMarketDataLine line).status },
        deliver callback state lines) := by
  have refused : (parseMarketDataLine line).status ≠ .ok := bad
  rw [replayMarketDataFile, replayLoop_append callback {} state parse,
    replayLoop, if_pos refused]
  simp only [FeedReplayResult.advance, Nat.zero_add]

end Callback

section Forget

universe v

variable {Full : Type u} {Part : Type v} {forget : Full → Part}
  {callback : MarketDataCallback Full} {partly : MarketDataCallback Part}
  (forgets :
    ∀ state update,
      forget (callback state update) = partly (forget state) update)
include forgets

/-- A replay does not depend on what its callback does besides. -/
theorem replayLoop_forget (result : FeedReplayResult) (state : Full)
    (lines : List ByteString) :
    replayLoop (some partly) result (forget state) lines =
      Prod.map id forget (replayLoop (some callback) result state lines) := by
  induction lines generalizing result state with
  | nil => rfl
  | cons line lines induction =>
      simp only [replayLoop]
      split_ifs
      · rfl
      · rw [← forgets]
        exact induction _ _

theorem replayMarketDataFile_forget (file : Option (List ByteString))
    (state : Full) :
    replayMarketDataFile (some partly) file (forget state) =
      Prod.map id forget
        (replayMarketDataFile (some callback) file state) := by
  cases file with
  | none => rfl
  | some lines => exact replayLoop_forget forgets {} state lines

end Forget

/-- The lines in front of the first that does not parse. -/
theorem exists_first_error {lines : List ByteString}
    (bad : ¬ ∀ line ∈ lines, Parses line) :
    ∃ before line after,
      lines = before ++ line :: after ∧
        (∀ line ∈ before, Parses line) ∧ ¬ Parses line := by
  induction lines with
  | nil =>
      refine absurd ?_ bad
      intro line member
      contradiction
  | cons line lines induction =>
      by_cases first : Parses line
      · have later : ¬ ∀ line ∈ lines, Parses line := by
          intro all
          exact bad (List.forall_mem_cons.mpr ⟨first, all⟩)
        obtain ⟨before, error, after, rfl, parse, refused⟩ :=
          induction later
        exact
          ⟨line :: before, error, after, rfl,
            List.forall_mem_cons.mpr ⟨first, parse⟩, refused⟩
      · refine ⟨[], line, lines, rfl, ?_, first⟩
        intro other member
        contradiction

end Llgw.FeedReplay
