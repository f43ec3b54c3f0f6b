import Llgw.MutatorErrors

/-!
# Reasons of cancellations and amendments

A record keeps one reason for cancellations and one for amendments.  The
reason for amendments is that of the last amendment to be completed.  The
reason for cancellations is only written when one is rejected: `MarkCancelled`
does not clear it, as `MarkAmendAccepted` does for amendments, so it is stale
exactly on orders that are cancelled after a rejected cancellation.
-/

namespace Llgw.ActionReasons

open Llgw.Foundation.TransitionRun
open Llgw.Messages
open Llgw.Reports
open Llgw.Lifecycle
open Llgw.LifecycleMarks
open Llgw.MutatorErrors

/-- Public calls with their results, oldest first. -/
abbrev History := List (Event OrderLifecycleTracker TrackerCall Bool)

/-! ## The latest outcome of an action -/

/-- The reason that a mark gives when it completes an amendment. -/
def amendOutcome : Mark → Option AmendRejectReason
  | .amendAccepted => some .none
  | .amendRejected reason => some reason
  | _ => none

/-- The reason that a mark gives when it completes a cancellation. -/
def cancelOutcome : Mark → Option CancelRejectReason
  | .cancelled => some .none
  | .cancelRejected reason => some reason
  | _ => none

/-- The last outcome of some marks, if there is one. -/
def latest {Reason : Type} (outcome : Mark → Option Reason)
    (marks : List Mark) : Option Reason :=
  (marks.filterMap outcome).getLast?

theorem latest_concat {Reason : Type} (outcome : Mark → Option Reason)
    (marks : List Mark) (mark : Mark) :
    latest outcome (marks ++ [mark]) =
      (outcome mark).or (latest outcome marks) := by
  rw [latest, List.filterMap_append]
  cases given : outcome mark with
  | none => simp [latest, given]
  | some reason => simp [latest, given]

theorem latest_congr {Reason : Type} {outcome other : Mark → Option Reason}
    {marks : List Mark}
    (same : ∀ mark ∈ marks, outcome mark = other mark) :
    latest outcome marks = latest other marks := by
  rw [latest, latest, List.filterMap_congr same]

/-- The mark that a call makes on an order, if it succeeds. -/
def markOn (sequenceId : UInt64) :
    Event OrderLifecycleTracker TrackerCall Bool → Option Mark
  | { input := .mark other mark, output := true, .. } =>
      if sequenceId = other then some mark else none
  | _ => none

/-- The marks that have succeeded on an order, oldest first. -/
def marksOn (sequenceId : UInt64) (history : History) : List Mark :=
  history.filterMap (markOn sequenceId)

/-- A record gives the latest outcome of each action on its order. -/
structure Current (marks : List Mark) (record : OrderLifecycleRecord) :
    Prop where
  amend :
    record.amendRejectReason = (latest amendOutcome marks).getD .none
  cancel :
    record.cancelRejectReason = (latest cancelOutcome marks).getD .none
  cancelled :
    record.state = .cancelled → record.cancelRejectReason = .none

/-- Every record gives the latest outcome of each action on its order. -/
def ReasonsCurrent (history : History) (tracker : OrderLifecycleTracker) :
    Prop :=
  ∀ sequenceId record,
    tracker.records.lookup sequenceId = some record →
      Current (marksOn sequenceId history) record

/-- A cancellation is not completed on top of an earlier rejection. -/
def CleanOn : TrackerCall → Option OrderLifecycleRecord → Prop
  | .mark _ .cancelled, some record =>
      record.state = .cancelPending → record.cancelRejectReason = .none
  | _, _ => True

/-- A call is clean in a state: `CleanOn` of the record that it names. -/
def Clean (tracker : OrderLifecycleTracker) (call : TrackerCall) : Prop :=
  CleanOn call (tracker.records.lookup (orderOf call))

/-- An order is cancelled after one of its cancellations was rejected. -/
def Retried (marks : List Mark) : Prop :=
  ∃ reason, [.cancelRejected reason, .cancelled].Sublist marks

/-! ## What a record tells of its order -/

/-- The reason that a mark gives when it rejects a cancellation. -/
def cancelRejection : Mark → Option CancelRejectReason
  | .cancelRejected reason => some reason
  | _ => none

/-- What the reasons of a record are, stale or not. -/
structure Explained (marks : List Mark) (record : OrderLifecycleRecord) :
    Prop where
  amend :
    record.amendRejectReason = (latest amendOutcome marks).getD .none
  cancel :
    record.cancelRejectReason = (latest cancelRejection marks).getD .none
  given : ∀ reason ∈ marks.filterMap cancelRejection, reason ≠ .none
  cancelled : .cancelled ∈ marks → record.state = .cancelled
  last :
    record.state = .cancelled →
      ∃ earlier, marks = earlier ++ [.cancelled]

theorem Explained.new (sequenceId : UInt64) {state : OrderLifecycleState}
    (open_ : state ≠ .cancelled) :
    Explained [] { sequenceId := sequenceId, state := state } where
  amend := rfl
  cancel := rfl
  given reason member := by
    contradiction
  cancelled member := by
    contradiction
  last closed := absurd closed open_

/-- No mark is legal on a cancelled order. -/
theorem source_ne_cancelled (mark : Mark) : mark.source ≠ .cancelled := by
  cases mark <;> exact OrderLifecycleState.noConfusion

/-- A rejection that is marked has a reason. -/
theorem ne_none_of_given {mark : Mark} (given : mark.reasonMissing = false)
    {reason : CancelRejectReason}
    (rejects : cancelRejection mark = some reason) : reason ≠ .none := by
  cases mark with
  | cancelRejected other =>
      obtain rfl := Option.some.inj rejects
      rintro rfl
      contradiction
  | _ => contradiction

/-- One more mark; a mark never starts from a cancelled order. -/
theorem Explained.mark {marks : List Mark} {record : OrderLifecycleRecord}
    (explained : Explained marks record) {mark : Mark}
    (source : record.state = mark.source)
    (given : mark.reasonMissing = false) :
    Explained (marks ++ [mark]) (mark.moved record) where
  amend := by
    rw [latest_concat]
    cases mark with
    | amendAccepted => rfl
    | amendRejected reason => rfl
    | _ => exact explained.amend
  cancel := by
    rw [latest_concat]
    cases mark with
    | cancelRejected reason => rfl
    | _ => exact explained.cancel
  given := by
    intro reason member
    rw [List.filterMap_append, List.mem_append] at member
    rcases member with past | added
    · exact explained.given reason past
    · rw [List.mem_filterMap] at added
      rcases added with ⟨other, last, rejects⟩
      rw [List.mem_singleton.mp last] at rejects
      exact ne_none_of_given given rejects
  cancelled := by
    intro member
    rw [List.mem_append, List.mem_singleton] at member
    rcases member with past | rfl
    · have closed := explained.cancelled past
      rw [source] at closed
      exact absurd closed (source_ne_cancelled mark)
    · exact Mark.moved_state _ _
  last := by
    rw [Mark.moved_state]
    intro closed
    cases mark with
    | cancelled => exact ⟨marks, rfl⟩
    | _ => cases closed

/-- A record is current unless it is cancelled and still gives a reason. -/
theorem Explained.current_iff {marks : List Mark}
    {record : OrderLifecycleRecord} (explained : Explained marks record) :
    Current marks record ↔
      (record.state = .cancelled → record.cancelRejectReason = .none) := by
  constructor
  · exact Current.cancelled
  · intro cleared
    refine ⟨explained.amend, ?_, cleared⟩
    by_cases closed : record.state = .cancelled
    · rcases explained.last closed with ⟨earlier, rfl⟩
      rw [cleared closed, latest_concat]
      rfl
    · rw [explained.cancel]
      congr 1
      apply latest_congr
      intro mark member
      cases mark with
      | cancelled => exact absurd (explained.cancelled member) closed
      | _ => rfl

/-- A record is stale exactly if its cancellation was retried. -/
theorem Explained.retried_iff {marks : List Mark}
    {record : OrderLifecycleRecord} (explained : Explained marks record) :
    Retried marks ↔
      record.state = .cancelled ∧ record.cancelRejectReason ≠ .none := by
  constructor
  · rintro ⟨reason, retried⟩
    have members := retried.subset
    refine ⟨explained.cancelled (members (by simp)), ?_⟩
    have rejected : reason ∈ marks.filterMap cancelRejection :=
      List.mem_filterMap.mpr ⟨_, members List.mem_cons_self, rfl⟩
    rw [explained.cancel, latest,
      List.getLast?_eq_some_getLast (List.ne_nil_of_mem rejected)]
    exact explained.given _ (List.getLast_mem _)
  · rintro ⟨closed, stale⟩
    rcases explained.last closed with ⟨earlier, rfl⟩
    rw [explained.cancel, latest_concat] at stale
    cases rejected : latest cancelRejection earlier with
    | none => exact absurd (by rw [rejected]; rfl) stale
    | some reason =>
        have member := List.mem_of_getLast? rejected
        rcases List.mem_filterMap.mp member with ⟨mark, past, rejects⟩
        cases mark with
        | cancelRejected other =>
            exact
              ⟨other, (List.singleton_sublist.mpr past).append (.refl _)⟩
        | _ => contradiction

/-- What an entry of the store tells of the marks on its order. -/
def ExplainedBy (marks : List Mark) :
    Option OrderLifecycleRecord → Prop
  | none => marks = []
  | some record => Explained marks record

/-- A cancelled record that still gives a reason. -/
def Stale (entry : Option OrderLifecycleRecord) : Prop :=
  ∃ record, entry = some record ∧ record.state = .cancelled ∧
    record.cancelRejectReason ≠ .none

/-- The mark that a successful call makes. -/
def markOf : TrackerCall → Option Mark
  | .mark _ mark => some mark
  | _ => none

theorem Moves.explained {call : TrackerCall}
    {old new : Option OrderLifecycleRecord}
    (moves : Moves call old new) {marks : List Mark}
    (explained : ExplainedBy marks old) :
    ExplainedBy (marks ++ (markOf call).toList) new := by
  cases moves with
  | created sequenceId =>
      have silent : marks = [] := explained
      subst silent
      exact Explained.new sequenceId (by decide)
  | queued sequenceId =>
      have silent : marks = [] := explained
      subst silent
      exact Explained.new sequenceId (by decide)
  | marked sequenceId mark record source reason =>
      exact Explained.mark explained source reason

/-- An entry becomes stale exactly by a call that is not clean. -/
theorem Moves.stale_iff {call : TrackerCall}
    {old new : Option OrderLifecycleRecord}
    (moves : Moves call old new) :
    Stale new ↔ Stale old ∨ ¬ CleanOn call old := by
  cases moves with
  | created sequenceId => simp [Stale, CleanOn]
  | queued sequenceId => simp [Stale, CleanOn]
  | marked sequenceId mark record source reason =>
      have before : record.state ≠ .cancelled := by
        rw [source]
        exact source_ne_cancelled mark
      cases mark with
      | cancelled =>
          have pending : record.state = .cancelPending := source
          simp [Stale, CleanOn, Mark.moved, Mark.setReason, Mark.target,
            pending]
      | _ => simp [Stale, CleanOn, Mark.target, before]

/-! ## One call -/

/-- The history of a tracker explains its records and finds the stale ones. -/
structure Known (history : History) (tracker : OrderLifecycleTracker) :
    Prop where
  explained :
    ∀ sequenceId,
      ExplainedBy (marksOn sequenceId history)
        (tracker.records.lookup sequenceId)
  stale :
    (∃ sequenceId, Stale (tracker.records.lookup sequenceId)) ↔
      ∃ entry ∈ history, ¬ Clean entry.before entry.input

section Step

variable {history : History} {tracker : OrderLifecycleTracker}
  {call : TrackerCall}

theorem marksOn_concat (sequenceId : UInt64) (history : History)
    (last : Event OrderLifecycleTracker TrackerCall Bool) :
    marksOn sequenceId (history ++ [last]) =
      marksOn sequenceId history ++ (markOn sequenceId last).toList := by
  rw [marksOn, List.filterMap_append]
  cases made : markOn sequenceId last <;> simp [marksOn, made]

/-- A failing call makes no mark. -/
theorem markOn_of_failure (sequenceId : UInt64)
    (fails : (trackerStep tracker call).1 = false) :
    markOn sequenceId (event trackerStep tracker call) = none := by
  cases call <;> simp [markOn, event, fails]

/-- A successful call makes its mark on its own order only. -/
theorem markOn_of_success (sequenceId : UInt64)
    (succeeds : (trackerStep tracker call).1 = true) :
    markOn sequenceId (event trackerStep tracker call) =
      if sequenceId = orderOf call then markOf call else none := by
  cases call with
  | mark other mark =>
      simp only [markOn, event, succeeds]
      rfl
  | registerCreated other => simp [markOn, event, markOf]
  | registerQueued other => simp [markOn, event, markOf]

/-- A failing call is clean: an order in `kCancelPending` can be cancelled. -/
theorem clean_of_failure (fails : (trackerStep tracker call).1 = false) :
    Clean tracker call := by
  cases call with
  | mark sequenceId mark =>
      cases mark with
      | cancelled =>
          show CleanOn _ (tracker.records.lookup sequenceId)
          cases found : tracker.records.lookup sequenceId with
          | none => trivial
          | some record =>
              intro pending
              have legal : Legal tracker sequenceId record .cancelled :=
                ⟨found, pending, rfl⟩
              rw [trackerStep, applyMark_of_legal legal] at fails
              contradiction
      | _ => trivial
  | _ => trivial

theorem exists_concat_iff
    (last : Event OrderLifecycleTracker TrackerCall Bool) :
    (∃ entry ∈ history ++ [last], ¬ Clean entry.before entry.input) ↔
      (∃ entry ∈ history, ¬ Clean entry.before entry.input) ∨
        ¬ Clean last.before last.input := by
  simp only [List.mem_append, List.mem_singleton, or_and_right,
    exists_or, exists_eq_left]

theorem Known.refused (known : Known history tracker)
    (fails : (trackerStep tracker call).1 = false) :
    Known (history ++ [event trackerStep tracker call])
      (trackerStep tracker call).2 where
  explained := by
    intro sequenceId
    have kept := ((trackerStep_outcome tracker call).1 fails).records
    rw [marksOn_concat, markOn_of_failure sequenceId fails, kept,
      Option.toList_none, List.append_nil]
    exact known.explained sequenceId
  stale := by
    have kept := ((trackerStep_outcome tracker call).1 fails).records
    rw [kept, known.stale, exists_concat_iff]
    simp [event, clean_of_failure fails]

theorem Known.carried (known : Known history tracker)
    (succeeds : (trackerStep tracker call).1 = true) :
    Known (history ++ [event trackerStep tracker call])
      (trackerStep tracker call).2 where
  explained := by
    intro sequenceId
    have carried := (trackerStep_outcome tracker call).2 succeeds
    rw [marksOn_concat, markOn_of_success sequenceId succeeds]
    split_ifs with same
    · subst same
      exact Moves.explained carried.transition (known.explained _)
    · rw [carried.frame sequenceId same, Option.toList_none,
        List.append_nil]
      exact known.explained sequenceId
  stale := by
    have carried := (trackerStep_outcome tracker call).2 succeeds
    have moved := Moves.stale_iff carried.transition
    rw [exists_concat_iff, ← known.stale]
    constructor
    · rintro ⟨sequenceId, stale⟩
      by_cases same : sequenceId = orderOf call
      · subst same
        rcases moved.mp stale with old | dirty
        · exact Or.inl ⟨_, old⟩
        · exact Or.inr dirty
      · rw [carried.frame sequenceId same] at stale
        exact Or.inl ⟨sequenceId, stale⟩
    · rintro (⟨sequenceId, stale⟩ | dirty)
      · by_cases same : sequenceId = orderOf call
        · subst same
          exact ⟨_, moved.mpr (Or.inl stale)⟩
        · rw [← carried.frame sequenceId same] at stale
          exact ⟨sequenceId, stale⟩
      · exact ⟨_, moved.mpr (Or.inr dirty)⟩

/-- The step lemma: one more call, successful or not. -/
theorem Known.step (known : Known history tracker) (call : TrackerCall) :
    Known (history ++ [event trackerStep tracker call])
      (trackerStep tracker call).2 := by
  cases result : (trackerStep tracker call).1 with
  | false => exact known.refused result
  | true => exact known.carried result

end Step

/-! ## Every run -/

theorem run_known (journal : Option ExecutionReportJournal)
    (calls : List TrackerCall) :
    Known (events trackerStep (newTracker journal) calls)
      (run trackerStep (newTracker journal) calls) := by
  apply run_history_induction trackerStep
  · constructor
    · intro sequenceId
      rfl
    · constructor
      · rintro ⟨sequenceId, record, found, _⟩
        cases found
      · rintro ⟨entry, member, _⟩
        cases member
  · intro history tracker call known
    exact known.step call

/-- A tracker has a stale record exactly if a cancellation was retried. -/
theorem Known.retried_iff {history : History}
    {tracker : OrderLifecycleTracker} (known : Known history tracker) :
    (∃ sequenceId, Stale (tracker.records.lookup sequenceId)) ↔
      ∃ sequenceId, Retried (marksOn sequenceId history) := by
  apply exists_congr
  intro sequenceId
  have explained := known.explained sequenceId
  cases found : tracker.records.lookup sequenceId with
  | none =>
      rw [found] at explained
      have silent : marksOn sequenceId history = [] := explained
      simp [Stale, silent, Retried]
  | some record =>
      rw [found] at explained
      rw [Explained.retried_iff explained]
      simp [Stale]

/-- A record gives the latest outcomes unless it is stale. -/
theorem Known.current_iff {history : History}
    {tracker : OrderLifecycleTracker} (known : Known history tracker) :
    ReasonsCurrent history tracker ↔
      ¬ ∃ sequenceId, Stale (tracker.records.lookup sequenceId) := by
  constructor
  · rintro current ⟨sequenceId, record, found, closed, reason⟩
    exact reason ((current sequenceId record found).cancelled closed)
  · intro fresh sequenceId record found
    have explained := known.explained sequenceId
    rw [found] at explained
    apply (Explained.current_iff explained).mpr
    intro closed
    by_contra reason
    exact fresh ⟨sequenceId, record, found, closed, reason⟩

/--
After a run of public calls every record gives the latest outcome of each
action exactly if no cancellation of the run was completed on an order that
still carried the reason of an earlier rejection.  In terms of the calls: no
order was successfully marked as cancelled after one of its cancellations was
successfully marked as rejected.
-/
theorem reasons_current_iff (journal : Option ExecutionReportJournal)
    (calls : List TrackerCall) :
    let history := events trackerStep (newTracker journal) calls
    let tracker := run trackerStep (newTracker journal) calls
    (ReasonsCurrent history tracker ↔
        ∀ entry ∈ history, Clean entry.before entry.input) ∧
      (ReasonsCurrent history tracker ↔
        ∀ sequenceId, ¬ Retried (marksOn sequenceId history)) := by
  intro history tracker
  have known : Known history tracker := run_known journal calls
  constructor
  · rw [known.current_iff, known.stale]
    simp
  · rw [known.current_iff, known.retried_iff, not_exists]

/-- A rejected cancellation that is tried again and accepted. -/
def cancelledOnRetry : List TrackerCall :=
  [.registerQueued 1, .mark 1 .sent, .mark 1 .exchangeAccepted,
    .mark 1 .cancelPending, .mark 1 (.cancelRejected .unknownOrder),
    .mark 1 .cancelPending, .mark 1 .cancelled]

/-- The cancelled order of this run still gives the reason of its rejection. -/
theorem retried_cancel_keeps_reason :
    ¬ ∀ journal calls,
      ReasonsCurrent (events trackerStep (newTracker journal) calls)
        (run trackerStep (newTracker journal) calls) := by
  intro always
  let stale : OrderLifecycleRecord :=
    { sequenceId := 1
      state := .cancelled
      cancelRejectReason := .unknownOrder }
  have found :
      (run trackerStep (newTracker none) cancelledOnRetry).records.lookup 1 =
        some stale := by
    decide
  have cleared := (always none cancelledOnRetry 1 stale found).cancelled rfl
  cases cleared

end Llgw.ActionReasons
