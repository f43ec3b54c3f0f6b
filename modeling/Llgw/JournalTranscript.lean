import Llgw.ReportText
import Llgw.Synchronisation

/-!
# The journal as a transcript

A tracked system decides something about one order at a time: it takes an
offer in, refuses it, hands it to the exchange, cancels it or amends it.  The
journal is the transcript of these decisions and of nothing else, and they can
be read back from its printed lines.
-/

namespace Llgw.JournalTranscript

open Llgw.Foundation.KeyedStore
open Llgw.Messages
open Llgw.Risk
open Llgw.Reports
open Llgw.ReportText
open Llgw.Lifecycle
open Llgw.LifecycleMarks
open Llgw.Gateway
open Llgw.Pipeline
open Llgw.System
open Llgw.StepEffects
open Llgw.Effects
open Llgw.Synchronisation

variable {capacity : ℕ+}

/-! ## Decisions -/

/-- What a system decides about an order. -/
inductive Decision where
  | queued
  | riskRejected (reason : RiskRejectReason)
  | accepted
  | rejected (reason : OrderRejectReason)
  | cancelled
  | amended
  | amendRejected (reason : AmendRejectReason)
deriving DecidableEq

/-- The decision on the order at the head of the queue. -/
def drainDecision : DrainOutcome → Option Decision
  | .riskRejected reason => some (.riskRejected reason)
  | .noGateway => none
  | .dispatched _ _ response =>
      if response.accepted then some .accepted
      else some (.rejected response.rejectReason)

/-- The decision on an amendment that lifecycle and gateway let through. -/
def amendDecision (response : AmendResponse) : Option Decision :=
  if response.accepted then some .amended
  else if response.rejectReason = .invalidState then none
  else some (.amendRejected response.rejectReason)

/-- The decision that an answer shows; a refused call shows none. -/
def decisionOf : Observation → Option (UInt64 × Decision)
  | .enqueued request accepted =>
      if accepted then some (request.sequenceId, .queued) else none
  | .drained call =>
      (drainDecision call.outcome).map (call.order.sequenceId, ·)
  | .cancelled request response =>
      if response.accepted then some (request.sequenceId, .cancelled)
      else none
  | .amended request response =>
      (amendDecision response).map (request.sequenceId, ·)

/-- The calls of the journal that a decision is made of. -/
def Decision.journalCalls : Decision → List JournalCall
  | .queued => [.recordState .created, .recordState .queued]
  | .riskRejected reason => [.recordRiskRejected reason]
  | .accepted => [.recordState .sent, .recordState .exchangeAccepted]
  | .rejected reason =>
      [.recordState .sent, .recordExchangeRejected reason]
  | .cancelled => [.recordState .cancelPending, .recordState .cancelled]
  | .amended => [.recordState .amendPending, .recordState .amendAccepted]
  | .amendRejected reason =>
      [.recordState .amendPending, .recordAmendRejected reason]

/-- The calls of the journal for decisions on several orders. -/
def transcript (decisions : List (UInt64 × Decision)) :
    List (UInt64 × JournalCall) :=
  decisions.flatMap fun decided =>
    decided.2.journalCalls.map (decided.1, ·)

theorem transcript_append (first second : List (UInt64 × Decision)) :
    transcript (first ++ second) = transcript first ++ transcript second :=
  List.flatMap_append

/-! ## What an effect writes -/

/-- The tracker appends to its journal. -/
def appended (tracker : OrderLifecycleTracker)
    (calls : List (UInt64 × JournalCall)) : Option ExecutionReportJournal :=
  tracker.executionReports.map (recordAll · calls)

theorem appended_nil (tracker : OrderLifecycleTracker) :
    tracker.executionReports = appended tracker [] :=
  Option.map_id'.symm

theorem marked_executionReports (tracker : OrderLifecycleTracker)
    (sequenceId : UInt64) (record : OrderLifecycleRecord) {mark : Mark}
    {call : JournalCall}
    (same : mark.report sequenceId = (call.applyTo · sequenceId)) :
    (marked tracker sequenceId record mark).executionReports =
      appended tracker [(sequenceId, call)] := by
  simp only [marked, appended, recordAll, List.foldl_cons, List.foldl_nil,
    same]

theorem appended_append (tracker next : OrderLifecycleTracker)
    {first : List (UInt64 × JournalCall)}
    (start : next.executionReports = appended tracker first)
    (second : List (UInt64 × JournalCall)) :
    appended next second = appended tracker (first ++ second) := by
  rw [appended, start, appended, appended, Option.map_map]
  congr 1
  funext journal
  exact List.foldl_append.symm

theorem completed_executionReports (tracker : OrderLifecycleTracker)
    (sequenceId : UInt64) (record : OrderLifecycleRecord)
    {first second : Mark} {firstCall secondCall : JournalCall}
    (start : first.report sequenceId = (firstCall.applyTo · sequenceId))
    (finish : second.report sequenceId = (secondCall.applyTo · sequenceId)) :
    (completed tracker sequenceId record first second).executionReports =
      appended tracker
        [(sequenceId, firstCall), (sequenceId, secondCall)] := by
  rw [completed, marked_executionReports _ _ _ finish]
  exact appended_append _ _ (marked_executionReports _ _ _ start) _

theorem enqueued_executionReports (tracker : OrderLifecycleTracker)
    (sequenceId : UInt64) :
    (enqueued tracker sequenceId).executionReports =
      appended tracker
        [(sequenceId, .recordState .created),
          (sequenceId, .recordState .queued)] := by
  have finish :
      Mark.queued.report sequenceId =
        ((JournalCall.recordState .queued).applyTo · sequenceId) := rfl
  have start :
      (registered tracker sequenceId).executionReports =
        appended tracker [(sequenceId, .recordState .created)] := rfl
  rw [enqueued, marked_executionReports _ _ _ finish]
  exact appended_append _ _ start _

/-- The step lemma: an effect writes the decision it shows. -/
theorem effect_executionReports {riskManager : Bool}
    {system next : System capacity} {observation : Observation}
    (effect : Effect riskManager system observation next) :
    next.lifecycleTracker.executionReports =
      appended system.lifecycleTracker
        (transcript (decisionOf observation).toList) := by
  cases effect with
  | refusedAsKnown | dropped | cancelRefused | amendRefused =>
      exact appended_nil system.lifecycleTracker
  | joined => exact enqueued_executionReports _ _
  | refusedByRisk => exact marked_executionReports _ _ _ rfl
  | acceptedOrder | rejectedOrder | cancelledOrder | acceptedAmend =>
      exact completed_executionReports _ _ _ rfl rfl
  | rejectedAmend _ _ _ _ permitted =>
      rw [decisionOf, amendDecision, if_neg Bool.false_ne_true,
        if_neg permitted]
      exact completed_executionReports _ _ _ rfl rfl

/-- The journal of a run is the transcript of its decisions. -/
theorem runFresh_transcript (riskManager : Bool) (limits : RiskLimits)
    (calls : List Call) :
    (runFresh (tracked riskManager) limits true calls :
        System capacity).lifecycleTracker.executionReports =
      some
        (recordAll {}
          (transcript
            ((observedFresh capacity (tracked riskManager) limits true
              calls).filterMap decisionOf))) := by
  apply
    runFresh_history
      (motive := fun past (system : System capacity) =>
        system.lifecycleTracker.executionReports =
          some
            (recordAll {} (transcript (past.filterMap decisionOf))))
  · rfl
  · intro past system observation next _ effect written
    rw [effect_executionReports effect, appended, written, Option.map_some,
      List.filterMap_append, transcript_append]
    have last :
        [observation].filterMap decisionOf =
          (decisionOf observation).toList := by
      cases shown : decisionOf observation <;> simp [shown]
    rw [last]
    exact congrArg some List.foldl_append.symm

/-! ## Reading decisions back -/

/-- The decision that one report stands for. -/
def readRejection (report : ExecutionReport) :
    Option (UInt64 × Decision) :=
  match report.type, reasonOf report with
  | .riskRejected, some (.risk reason) =>
      some (report.sequenceId, .riskRejected reason)
  | _, _ => none

/-- The decision that two reports on one order stand for. -/
def readPair (first second : ExecutionReport) :
    Option (UInt64 × Decision) :=
  if first.sequenceId ≠ second.sequenceId then none
  else
    Option.map (first.sequenceId, ·)
      (match first.type, second.type, reasonOf second with
      | .created, .queued, _ => some .queued
      | .sent, .exchangeAccepted, _ => some .accepted
      | .sent, .exchangeRejected, some (.order reason) =>
          some (.rejected reason)
      | .cancelPending, .cancelled, _ => some .cancelled
      | .amendPending, .amendAccepted, _ => some .amended
      | .amendPending, .amendRejected, some (.amend reason) =>
          some (.amendRejected reason)
      | _, _, _ => none)

/-- The decisions of which reports are the transcript. -/
def readDecisions : List ExecutionReport →
    Option (List (UInt64 × Decision))
  | [] => some []
  | first :: rest =>
      match readRejection first with
      | some decided => (readDecisions rest).map (decided :: ·)
      | none =>
          match rest with
          | [] => none
          | second :: rest => do
              let decided ← readPair first second
              let others ← readDecisions rest
              some (decided :: others)

/-- The decisions that the lines of a journal tell. -/
def readJournal (lines : List ByteString) :
    Option (List (UInt64 × Decision)) := do
  let reports ← lines.mapM decodeExecutionReport
  readDecisions reports

/-- Every report is that of a call, in the order of the calls. -/
theorem recordAll_reports (journal : ExecutionReportJournal)
    (calls : List (UInt64 × JournalCall)) :
    ∃ recorded,
      (recordAll journal calls).reports = journal.reports ++ recorded ∧
        List.Forall₂
          (fun call report =>
            ∃ eventIndex, report = call.2.report eventIndex call.1)
          calls recorded := by
  induction calls generalizing journal with
  | nil => exact ⟨[], (List.append_nil _).symm, .nil⟩
  | cons call calls induction =>
      rcases induction (call.2.applyTo journal call.1) with
        ⟨recorded, written, told⟩
      have first := call.2.reports_applyTo journal call.1
      refine ⟨call.2.report journal.nextEventIndex call.1 :: recorded, ?_,
        .cons ⟨_, rfl⟩ told⟩
      rw [recordAll, List.foldl_cons]
      rw [recordAll, first, List.append_assoc] at written
      exact written

/-- The reports of a decision are read as this decision. -/
theorem read_journalCalls (sequenceId : UInt64) (decision : Decision) :
    (∃ call,
        decision.journalCalls = [call] ∧
          ∀ eventIndex,
            readRejection (call.report eventIndex sequenceId) =
              some (sequenceId, decision)) ∨
      ∃ first second,
        decision.journalCalls = [first, second] ∧
          ∀ eventIndex nextIndex,
            readRejection (first.report eventIndex sequenceId) = none ∧
              readPair (first.report eventIndex sequenceId)
                  (second.report nextIndex sequenceId) =
                some (sequenceId, decision) := by
  cases decision with
  | riskRejected reason =>
      refine Or.inl ⟨_, rfl, fun eventIndex => ?_⟩
      rw [readRejection, reasonOf_report]
      rfl
  | rejected reason | amendRejected reason =>
      refine Or.inr ⟨_, _, rfl, fun eventIndex nextIndex => ⟨rfl, ?_⟩⟩
      rw [readPair, reasonOf_report]
      exact if_neg (not_not_intro rfl)
  | queued | accepted | cancelled | amended =>
      refine Or.inr ⟨_, _, rfl, fun eventIndex nextIndex => ⟨rfl, ?_⟩⟩
      exact if_neg (not_not_intro rfl)

theorem readDecisions_cons {first : ExecutionReport}
    {decided : UInt64 × Decision} (read : readRejection first = some decided)
    (rest : List ExecutionReport) :
    readDecisions (first :: rest) =
      (readDecisions rest).map (decided :: ·) := by
  cases rest <;> simp only [readDecisions, read]

theorem readDecisions_cons_cons {first second : ExecutionReport}
    {decided : UInt64 × Decision} (other : readRejection first = none)
    (read : readPair first second = some decided)
    (rest : List ExecutionReport) :
    readDecisions (first :: second :: rest) =
      (readDecisions rest).map (decided :: ·) := by
  rw [readDecisions, other, read]
  cases readDecisions rest <;> rfl

/-- Decisions are read from the reports of their transcript. -/
theorem readDecisions_transcript {decisions : List (UInt64 × Decision)}
    {reports : List ExecutionReport}
    (told :
      List.Forall₂
        (fun call report =>
          ∃ eventIndex, report = call.2.report eventIndex call.1)
        (transcript decisions) reports) :
    readDecisions reports = some decisions := by
  induction decisions generalizing reports with
  | nil =>
      cases told
      rfl
  | cons decided decisions induction =>
      rcases decided with ⟨sequenceId, decision⟩
      rw [transcript, List.flatMap_cons] at told
      rcases read_journalCalls sequenceId decision with
        ⟨call, calls, read⟩ | ⟨first, second, calls, read⟩
      · rw [calls] at told
        rcases told with _ | ⟨⟨eventIndex, rfl⟩, told⟩
        rw [readDecisions_cons (read eventIndex), induction told]
        rfl
      · rw [calls] at told
        rcases told with
          _ | ⟨⟨eventIndex, rfl⟩, _ | ⟨⟨nextIndex, rfl⟩, told⟩⟩
        rcases read eventIndex nextIndex with ⟨other, pair⟩
        rw [readDecisions_cons_cons other pair, induction told]
        rfl

theorem mapM_decode_format (reports : List ExecutionReport) :
    (reports.map formatExecutionReport).mapM decodeExecutionReport =
      some reports := by
  induction reports with
  | nil => rfl
  | cons report reports induction =>
      rw [List.map_cons, List.mapM_cons, decode_format, induction]
      rfl

/--
The journal of a tracked system is the transcript of what it decided, in the
order of the decisions: refused calls leave no report, and from the printed
lines alone every decision is read back, with its order and its reason.
-/
theorem run_journal_transcript (riskManager : Bool) (limits : RiskLimits)
    (calls : List Call) :
    let system : System capacity :=
      runFresh (tracked riskManager) limits true calls
    let decisions :=
      (observedFresh capacity (tracked riskManager) limits true
        calls).filterMap decisionOf
    ∃ journal,
      system.lifecycleTracker.executionReports = some journal ∧
        journal = recordAll {} (transcript decisions) ∧
        readJournal (journal.reports.map formatExecutionReport) =
          some decisions := by
  intro system decisions
  refine ⟨_, runFresh_transcript riskManager limits calls, rfl, ?_⟩
  rcases recordAll_reports {} (transcript decisions) with
    ⟨recorded, written, told⟩
  rw [written, readJournal, mapM_decode_format]
  exact readDecisions_transcript told

end Llgw.JournalTranscript
