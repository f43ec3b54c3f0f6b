import Llgw.Foundation.PartialAutomaton
import Llgw.Foundation.TransitionRun
import Llgw.LifecycleUpdates

/-!
# The journal as an event source

Whatever public calls are made on a tracker with a new journal, the reports on
an order spell a path of the lifecycle automaton.  They determine the state of
its record and the reasons in it, and the counters of the tracker count them.
-/

namespace Llgw.LifecycleEventSource

open Llgw.Foundation.KeyedStore
open Llgw.Foundation.PartialAutomaton
open Llgw.Foundation.TransitionRun
open Llgw.Messages
open Llgw.Risk
open Llgw.Reports
open Llgw.Lifecycle
open Llgw.LifecycleMarks
open Llgw.LifecycleUpdates

/-! ## The lifecycle automaton -/

/-- The state that a report leads to, if it is legal. -/
def advance : OrderLifecycleState → ExecutionReportType →
    Option OrderLifecycleState
  | .created, .queued => some .queued
  | .queued, .riskRejected => some .riskRejected
  | .queued, .sent => some .sent
  | .sent, .exchangeAccepted => some .exchangeAccepted
  | .sent, .exchangeRejected => some .exchangeRejected
  | .exchangeAccepted, .cancelPending => some .cancelPending
  | .cancelPending, .cancelled => some .cancelled
  | .cancelPending, .cancelRejected => some .exchangeAccepted
  | .exchangeAccepted, .amendPending => some .amendPending
  | .amendPending, .amendAccepted => some .exchangeAccepted
  | .amendPending, .amendRejected => some .exchangeAccepted
  | _, _ => none

/-- The state after the reports on an order, the first of which creates it. -/
def replay : List ExecutionReportType → Option OrderLifecycleState
  | .created :: later => path advance .created later
  | _ => none

/-- The report of a mark leads from its source to its target. -/
theorem advance_mark (mark : Mark) :
    advance mark.source mark.reportType = some mark.target := by
  cases mark <;> rfl

theorem replay_concat
    {types : List ExecutionReportType} {state : OrderLifecycleState}
    (reached : replay types = some state) (type : ExecutionReportType) :
    replay (types ++ [type]) = advance state type := by
  cases types with
  | nil => cases reached
  | cons first later =>
      cases first with
      | created =>
          have before : path advance .created later = some state := reached
          show path advance .created (later ++ [type]) = _
          rw [path_concat, before]
          rfl
      | _ => cases reached

section Words

open RegularExpression

/-- An amendment, or a cancellation that is rejected. -/
def round : RegularExpression ExecutionReportType :=
  char .amendPending * (char .amendAccepted + char .amendRejected) +
    char .cancelPending * char .cancelRejected

/-- From the creation of an order to a state in which it rests. -/
def resting : RegularExpression ExecutionReportType :=
  char .created * char .queued * char .sent * char .exchangeAccepted *
    round.star

/-- An order may be cancelled in the end, or not. -/
def closing : RegularExpression ExecutionReportType :=
  1 + char .cancelPending * char .cancelled

/-- The life of an order that the exchange accepts, from its submission. -/
def served : RegularExpression ExecutionReportType :=
  char .sent * char .exchangeAccepted * round.star * closing

/-- The complete lives of an order. -/
def lifecycleWords : RegularExpression ExecutionReportType :=
  char .created * char .queued *
    (char .riskRejected + (char .sent * char .exchangeRejected + served))

/-- The words that lead to a state. -/
def wordsTo : OrderLifecycleState → RegularExpression ExecutionReportType
  | .created => char .created
  | .queued => char .created * char .queued
  | .riskRejected => char .created * char .queued * char .riskRejected
  | .sent => char .created * char .queued * char .sent
  | .exchangeRejected =>
      char .created * char .queued * char .sent * char .exchangeRejected
  | .exchangeAccepted => resting
  | .cancelPending => resting * char .cancelPending
  | .cancelled => resting * char .cancelPending * char .cancelled
  | .amendPending => resting * char .amendPending

/-- A round leads from a resting order to a resting order. -/
theorem resting_round {word turn : List ExecutionReportType}
    (rests : word ∈ resting.matches') (one : turn ∈ round.matches') :
    word ++ turn ∈ resting.matches' := by
  rw [resting, matches'_mul, Language.mem_mul] at rests
  rcases rests with ⟨start, member, rounds, repeated, rfl⟩
  rw [List.append_assoc]
  exact Language.append_mem_mul member (append_mem_star repeated one)

/-- A resting order that has just been accepted. -/
theorem resting_of_sent {word : List ExecutionReportType}
    (sent : word ∈ (wordsTo .sent).matches') :
    word ++ [.exchangeAccepted] ∈ resting.matches' := by
  have accepted := append_mem_mul_char sent .exchangeAccepted
  rw [← List.append_nil (word ++ _)]
  exact Language.append_mem_mul accepted (nil_mem_star round)

/-- The two letters of a round, the second of which comes later. -/
theorem resting_of_pending {word : List ExecutionReportType}
    {first second : ExecutionReportType}
    (pending : word ∈ (resting * char first).matches')
    (one : [first, second] ∈ round.matches') :
    word ++ [second] ∈ resting.matches' := by
  rw [matches'_mul, Language.mem_mul] at pending
  rcases pending with ⟨start, rests, last, rfl, rfl⟩
  rw [List.append_assoc]
  exact resting_round rests one

/-- The step lemma: one more report stays within the words of the automaton. -/
theorem wordsTo_advance
    (state : OrderLifecycleState) (type : ExecutionReportType)
    (next : OrderLifecycleState) (word : List ExecutionReportType)
    (legal : advance state type = some next)
    (member : word ∈ (wordsTo state).matches') :
    word ++ [type] ∈ (wordsTo next).matches' := by
  unfold advance at legal
  split at legal
  · cases legal
    exact append_mem_mul_char member _
  · cases legal
    exact append_mem_mul_char member _
  · cases legal
    exact append_mem_mul_char member _
  · cases legal
    exact resting_of_sent member
  · cases legal
    exact append_mem_mul_char member _
  · cases legal
    exact append_mem_mul_char member _
  · cases legal
    exact append_mem_mul_char member _
  · cases legal
    exact resting_of_pending member (Or.inr ⟨_, rfl, _, rfl, rfl⟩)
  · cases legal
    exact append_mem_mul_char member _
  · cases legal
    exact
      resting_of_pending member
        (Or.inl ⟨_, rfl, _, Or.inl rfl, rfl⟩)
  · cases legal
    exact
      resting_of_pending member
        (Or.inl ⟨_, rfl, _, Or.inr rfl, rfl⟩)
  · contradiction

/-- An order at rest may be complete, or be cancelled. -/
theorem resting_complete {word ending : List ExecutionReportType}
    (rests : word ∈ resting.matches') (ends : ending ∈ closing.matches') :
    word ++ ending ∈ lifecycleWords.matches' := by
  rw [resting, matches'_mul, Language.mem_mul] at rests
  obtain ⟨_, ⟨_, ⟨_, created, _, rfl, rfl⟩, _, rfl, rfl⟩, rounds,
    repeated, rfl⟩ := rests
  have submitted :
      [ExecutionReportType.sent, .exchangeAccepted] ∈
        (char ExecutionReportType.sent *
          char ExecutionReportType.exchangeAccepted).matches' :=
    ⟨_, rfl, _, rfl, rfl⟩
  have accepted : _ ∈ served.matches' :=
    Language.append_mem_mul (Language.append_mem_mul submitted repeated)
      ends
  have complete : _ ∈ lifecycleWords.matches' :=
    Language.append_mem_mul created (Or.inr (Or.inr accepted))
  simpa only [List.append_assoc, List.cons_append, List.nil_append]
    using complete

/-- Every word that leads to a state can be completed. -/
theorem wordsTo_complete
    (state : OrderLifecycleState) {word : List ExecutionReportType}
    (member : word ∈ (wordsTo state).matches') :
    ∃ ending, word ++ ending ∈ lifecycleWords.matches' := by
  have refused :
      [ExecutionReportType.created, .queued, .riskRejected] ∈
        lifecycleWords.matches' :=
    ⟨_, ⟨_, rfl, _, rfl, rfl⟩, _, Or.inl rfl, rfl⟩
  have rejected :
      [ExecutionReportType.created, .queued, .sent, .exchangeRejected] ∈
        lifecycleWords.matches' :=
    ⟨_, ⟨_, rfl, _, rfl, rfl⟩, _,
      Or.inr (Or.inl ⟨_, rfl, _, rfl, rfl⟩), rfl⟩
  cases state with
  | created =>
      cases member
      exact ⟨[.queued, .riskRejected], refused⟩
  | queued =>
      rcases member with ⟨_, rfl, _, rfl, rfl⟩
      exact ⟨[.riskRejected], refused⟩
  | riskRejected =>
      rcases member with ⟨_, ⟨_, rfl, _, rfl, rfl⟩, _, rfl, rfl⟩
      exact ⟨[], refused⟩
  | sent =>
      rcases member with ⟨_, ⟨_, rfl, _, rfl, rfl⟩, _, rfl, rfl⟩
      exact ⟨[.exchangeRejected], rejected⟩
  | exchangeRejected =>
      obtain ⟨_, ⟨_, ⟨_, rfl, _, rfl, rfl⟩, _, rfl, rfl⟩, _, rfl, rfl⟩ :=
        member
      exact ⟨[], rejected⟩
  | exchangeAccepted =>
      exact ⟨[], resting_complete member (Or.inl rfl)⟩
  | cancelPending =>
      rcases member with ⟨start, rests, _, rfl, rfl⟩
      refine ⟨[.cancelled], ?_⟩
      rw [List.append_assoc]
      exact resting_complete rests (Or.inr ⟨_, rfl, _, rfl, rfl⟩)
  | cancelled =>
      rcases member with ⟨_, ⟨start, rests, _, rfl, rfl⟩, _, rfl, rfl⟩
      refine ⟨[], ?_⟩
      show start ++ [.cancelPending] ++ [.cancelled] ++ [] ∈ _
      rw [List.append_nil, List.append_assoc]
      exact resting_complete rests (Or.inr ⟨_, rfl, _, rfl, rfl⟩)
  | amendPending =>
      refine ⟨[.amendAccepted], ?_⟩
      have rests :=
        resting_of_pending member (Or.inl ⟨_, rfl, _, Or.inl rfl, rfl⟩)
      rw [← List.append_nil (word ++ _)]
      exact resting_complete rests (Or.inl rfl)

/-- The word of a path of the automaton leads to its final state. -/
theorem replay_mem
    {types : List ExecutionReportType} {state : OrderLifecycleState}
    (reached : replay types = some state) :
    types ∈ (wordsTo state).matches' := by
  cases types with
  | nil => cases reached
  | cons first later =>
      cases first with
      | created =>
          exact
            path_mem (fun state => (wordsTo state).matches')
              wordsTo_advance .created [.created] rfl later reached
      | _ => cases reached

/-- What the automaton accepts is the beginning of the life of an order. -/
theorem replay_prefix
    {types : List ExecutionReportType} {state : OrderLifecycleState}
    (reached : replay types = some state) :
    ∃ word ∈ lifecycleWords.matches', types <+: word := by
  rcases wordsTo_complete state (replay_mem reached) with ⟨ending, complete⟩
  exact ⟨_, complete, List.prefix_append _ _⟩

end Words

/-! ## What the reports on an order determine -/

/-- The reason in the last report of some types, if there is one. -/
def lastReason (types : List ExecutionReportType)
    (bodies : List ReportBody) : ByteString :=
  ((bodies.filter fun body => body.type ∈ types).getLast?.map
    ReportBody.rejectReason).getD (text "none")

theorem lastReason_concat
    (types : List ExecutionReportType) (bodies : List ReportBody)
    (body : ReportBody) :
    lastReason types (bodies ++ [body]) =
      if body.type ∈ types then body.rejectReason
      else lastReason types bodies := by
  unfold lastReason
  rw [List.filter_append]
  split_ifs with listed
  · simp [listed]
  · simp [listed]

/-- A record is what the reports on its order say. -/
structure Explains (bodies : List ReportBody)
    (record : OrderLifecycleRecord) : Prop where
  state : replay (bodies.map ReportBody.type) = some record.state
  risk :
    record.riskRejectReason.toString = lastReason [.riskRejected] bodies
  exchange :
    orderReasonString record.exchangeRejectReason =
      lastReason [.exchangeRejected] bodies
  cancel :
    cancelReasonString record.cancelRejectReason =
      lastReason [.cancelRejected] bodies
  amend :
    amendReasonString record.amendRejectReason =
      lastReason [.amendAccepted, .amendRejected] bodies

/-- The report that creates an order explains its new record. -/
theorem Explains.register (sequenceId : UInt64) :
    Explains (registerUpdate sequenceId).bodies
      (registerUpdate sequenceId).record :=
  ⟨rfl, rfl, rfl, rfl, rfl⟩

/-- The report of a legal mark explains what it does to a record. -/
theorem Explains.mark
    {bodies : List ReportBody} {record : OrderLifecycleRecord}
    (explains : Explains bodies record) {mark : Mark}
    (legal : record.state = mark.source) :
    Explains (bodies ++ (markUpdate record mark).bodies)
      (markUpdate record mark).record where
  state := by
    have reached := explains.state
    rw [legal] at reached
    rw [List.map_append]
    refine (replay_concat reached _).trans ?_
    exact (advance_mark mark).trans (by rw [markUpdate, Mark.moved_state])
  risk := by
    rw [markUpdate, lastReason_concat]
    cases mark with
    | riskRejected => rfl
    | _ => exact explains.risk
  exchange := by
    rw [markUpdate, lastReason_concat]
    cases mark with
    | exchangeRejected => rfl
    | _ => exact explains.exchange
  cancel := by
    rw [markUpdate, lastReason_concat]
    cases mark with
    | cancelRejected => rfl
    | _ => exact explains.cancel
  amend := by
    rw [markUpdate, lastReason_concat]
    cases mark with
    | amendAccepted => rfl
    | amendRejected => rfl
    | _ => exact explains.amend

/-! ## What the journal determines -/

/-- The counter that belongs to a type of report. -/
def counterOf : ExecutionReportType → LifecycleCounters → Nat
  | .created, counters => counters.ordersRegistered
  | .queued, counters => counters.ordersQueued
  | .riskRejected, counters => counters.ordersRiskRejected
  | .sent, counters => counters.ordersSent
  | .exchangeAccepted, counters => counters.ordersExchangeAccepted
  | .exchangeRejected, counters => counters.ordersExchangeRejected
  | .cancelPending, counters => counters.cancelRequests
  | .cancelled, counters => counters.cancelsAccepted
  | .cancelRejected, counters => counters.cancelsRejected
  | .amendPending, counters => counters.amendRequests
  | .amendAccepted, counters => counters.amendsAccepted
  | .amendRejected, counters => counters.amendsRejected

/-- The rejection source that belongs to a type of report. -/
def sourceOf : ExecutionReportType → ExecutionRejectSource
  | .riskRejected => .risk
  | .exchangeRejected => .exchange
  | .cancelRejected => .cancel
  | .amendRejected => .amend
  | _ => .none

/-- How many reports of a type a journal holds. -/
def reported (journal : ExecutionReportJournal)
    (type : ExecutionReportType) : Nat :=
  journal.reports.countP fun report => report.type = type

/-- An update that reports once, and counts what it reports. -/
structure Reporting (update : Update) (body : ReportBody) : Prop where
  bodies : update.bodies = [body]
  source : body.rejectSource = sourceOf body.type
  count :
    ∀ counters type,
      counterOf type (update.count counters) =
        counterOf type counters + if body.type = type then 1 else 0

theorem markUpdate_reporting (record : OrderLifecycleRecord) (mark : Mark) :
    Reporting (markUpdate record mark)
      { type := mark.reportType
        rejectSource := mark.rejectSource
        rejectReason := mark.rejectReason } where
  bodies := rfl
  source := by cases mark <;> rfl
  count counters type := by cases mark <;> cases type <;> rfl

theorem registerUpdate_reporting (sequenceId : UInt64) :
    Reporting (registerUpdate sequenceId)
      { type := .created
        rejectSource := .none
        rejectReason := text "none" } where
  bodies := rfl
  source := rfl
  count counters type := by cases type <;> rfl

/-- The joint invariant of a tracker and the journal it writes. -/
structure Sourced (tracker : OrderLifecycleTracker)
    (journal : ExecutionReportJournal) : Prop where
  attached : tracker.executionReports = some journal
  consistent : journal.Consistent
  unknown :
    ∀ sequenceId, sequenceId ∉ tracker.records →
      journalBodies journal sequenceId = []
  known :
    ∀ sequenceId record,
      tracker.records.lookup sequenceId = some record →
        Explains (journalBodies journal sequenceId) record
  counters : ∀ type, counterOf type tracker.counters = reported journal type
  sources :
    ∀ report ∈ journal.reports, report.rejectSource = sourceOf report.type

/-- A new tracker on a new journal. -/
def journalling : OrderLifecycleTracker where
  executionReports := some {}

theorem sourced_journalling : Sourced journalling {} where
  attached := rfl
  consistent := ExecutionReportJournal.consistent_fresh
  unknown _ _ := rfl
  known sequenceId record found := by
    rw [journalling, Finmap.lookup_empty] at found
    contradiction
  counters type := by cases type <;> rfl
  sources report member := by cases member

section Steps

variable {tracker next : OrderLifecycleTracker}
  {journal : ExecutionReportJournal}

/-- A failed call reports nothing and changes no record and no counter. -/
theorem Sourced.failed (sourced : Sourced tracker journal)
    (error : LifecycleError) : Sourced (failed tracker error) journal :=
  ⟨sourced.attached, sourced.consistent, sourced.unknown, sourced.known,
    sourced.counters, sourced.sources⟩

theorem reported_record
    (journal : ExecutionReportJournal) (sequenceId : UInt64)
    (body : ReportBody) (type : ExecutionReportType) :
    reported
        (journal.record sequenceId body.type body.rejectSource
          body.rejectReason) type =
      reported journal type + if body.type = type then 1 else 0 := by
  unfold reported
  simp only [ExecutionReportJournal.record, List.countP_append,
    List.countP_singleton, decide_eq_true_eq]

/-- A call that updates a record reports the update. -/
theorem Sourced.updated (sourced : Sourced tracker journal)
    {sequenceId : UInt64} {update : Update} {body : ReportBody}
    (updated : Updated tracker sequenceId update next)
    (reporting : Reporting update body)
    (reports :
      next.executionReports =
        tracker.executionReports.map fun journal =>
          journal.record sequenceId body.type body.rejectSource
            body.rejectReason)
    (explains :
      Explains (journalBodies journal sequenceId ++ update.bodies)
        update.record) :
    Sourced next
      (journal.record sequenceId body.type body.rejectSource
        body.rejectReason) where
  attached := by
    rw [reports, sourced.attached]
    rfl
  consistent := sourced.consistent.record _ _ _ _
  unknown other absent := by
    rw [updated.records, Finmap.mem_insert, not_or] at absent
    rw [journalBodies_record, Function.update_of_ne absent.1]
    exact sourced.unknown other absent.2
  known other record found := by
    rw [updated.records, lookup_insert_eq_ite] at found
    rw [journalBodies_record]
    by_cases same : other = sequenceId
    · subst same
      rw [if_pos rfl] at found
      cases found
      rw [Function.update_self, ← reporting.bodies]
      exact explains
    · rw [if_neg same] at found
      rw [Function.update_of_ne same]
      exact sourced.known other record found
  counters type := by
    rw [updated.counters, reporting.count, sourced.counters,
      reported_record]
  sources report member := by
    rcases List.mem_append.mp member with old | new
    · exact sourced.sources report old
    · rw [List.mem_singleton] at new
      subst new
      exact reporting.source

theorem Sourced.registered (sourced : Sourced tracker journal)
    {sequenceId : UInt64} (unknown : sequenceId ∉ tracker.records) :
    ∃ later, Sourced (registered tracker sequenceId) later := by
  refine
    ⟨_, sourced.updated (registered_updated tracker sequenceId)
      (registerUpdate_reporting sequenceId) rfl ?_⟩
  rw [sourced.unknown sequenceId unknown]
  exact .register sequenceId

theorem Sourced.marked (sourced : Sourced tracker journal)
    {sequenceId : UInt64} {record : OrderLifecycleRecord} {mark : Mark}
    (legal : Legal tracker sequenceId record mark) :
    ∃ later, Sourced (marked tracker sequenceId record mark) later :=
  ⟨_, sourced.updated (marked_updated tracker sequenceId record mark)
    (markUpdate_reporting record mark) rfl
    ((sourced.known sequenceId record legal.found).mark legal.state)⟩

/-- The step lemma: every public call keeps tracker and journal joined. -/
theorem trackerStep_sourced (call : TrackerCall)
    (sourced : ∃ journal, Sourced tracker journal) :
    ∃ journal, Sourced (trackerStep tracker call).2 journal := by
  refine
    trackerStep_preserves (fun later => ∃ journal, Sourced later journal)
      ?_ ?_ ?_ tracker call sourced
  · rintro later error ⟨journal, held⟩
    exact ⟨journal, held.failed error⟩
  · rintro later sequenceId unknown ⟨journal, held⟩
    exact held.registered unknown
  · rintro later sequenceId record mark legal ⟨journal, held⟩
    exact held.marked legal

/-- A call that fails leaves journal, records and counters as they were. -/
theorem trackerStep_of_failure {call : TrackerCall}
    (fails : (trackerStep tracker call).1 = false) :
    ∃ error,
      (trackerStep tracker call).2 =
        LifecycleMarks.failed tracker error := by
  cases call with
  | registerCreated sequenceId =>
      rw [trackerStep] at fails ⊢
      by_cases known : sequenceId ∈ tracker.records
      · exact ⟨_, by rw [registerCreated_of_known known]⟩
      · rw [registerCreated_of_unknown known] at fails
        contradiction
  | registerQueued sequenceId =>
      rw [trackerStep] at fails ⊢
      by_cases known : sequenceId ∈ tracker.records
      · exact ⟨_, by rw [registerQueued_of_known known]⟩
      · rw [registerQueued_of_unknown known] at fails
        contradiction
  | mark sequenceId mark =>
      rw [trackerStep] at fails ⊢
      rcases applyMark_cases tracker sequenceId mark with
        ⟨record, _, result⟩ | ⟨_, error, _, _, result⟩
      · rw [result] at fails
        contradiction
      · exact ⟨error, by rw [result]⟩

end Steps

/-! ## Runs -/

/-- The journal that a tracker writes, which is empty if it has none. -/
def journalOf (tracker : OrderLifecycleTracker) : ExecutionReportJournal :=
  tracker.executionReports.getD {}

/-- The types of the reports on an order, oldest first. -/
def typesFor (journal : ExecutionReportJournal) (sequenceId : UInt64) :
    List ExecutionReportType :=
  (journal.reportsFor sequenceId).map ExecutionReport.type

theorem types_journalBodies
    (journal : ExecutionReportJournal) (sequenceId : UInt64) :
    (journalBodies journal sequenceId).map ReportBody.type =
      typesFor journal sequenceId := by
  rw [journalBodies, List.map_map]
  rfl

/-- A journal determines the records and the counters of its tracker. -/
structure EventSource (tracker : OrderLifecycleTracker)
    (journal : ExecutionReportJournal) : Prop where
  attached : tracker.executionReports = some journal
  indexes :
    ∀ position (bound : position < journal.reports.length),
      journal.reports[position].eventIndex.toNat = position + 1
  reported :
    ∀ sequenceId, journal.reportsFor sequenceId ≠ [] ↔
      tracker.contains sequenceId = true
  words :
    ∀ sequenceId, ∃ word ∈ lifecycleWords.matches',
      typesFor journal sequenceId <+: word
  states :
    ∀ sequenceId,
      tracker.stateOf sequenceId = replay (typesFor journal sequenceId)
  riskReasons :
    ∀ sequenceId record, tracker.find sequenceId = some record →
      ∀ reason, record.riskRejectReason = reason ↔
        reason.toString =
          lastReason [.riskRejected] (journalBodies journal sequenceId)
  exchangeReasons :
    ∀ sequenceId record, tracker.find sequenceId = some record →
      ∀ reason, record.exchangeRejectReason = reason ↔
        orderReasonString reason =
          lastReason [.exchangeRejected] (journalBodies journal sequenceId)
  cancelReasons :
    ∀ sequenceId record, tracker.find sequenceId = some record →
      ∀ reason, record.cancelRejectReason = reason ↔
        cancelReasonString reason =
          lastReason [.cancelRejected] (journalBodies journal sequenceId)
  amendReasons :
    ∀ sequenceId record, tracker.find sequenceId = some record →
      ∀ reason, record.amendRejectReason = reason ↔
        amendReasonString reason =
          lastReason [.amendAccepted, .amendRejected]
            (journalBodies journal sequenceId)
  counters :
    ∀ type, counterOf type tracker.counters =
      LifecycleEventSource.reported journal type
  sources :
    ∀ report ∈ journal.reports, report.rejectSource = sourceOf report.type

/-- A reason is determined by its name. -/
theorem reason_iff {Reason : Type} {name : Reason → ByteString}
    (injective : Function.Injective name) {reason : Reason}
    {string : ByteString} (named : name reason = string)
    (other : Reason) :
    reason = other ↔ name other = string := by
  rw [← named]
  exact ⟨fun same => congrArg name same.symm,
    fun same => (injective same).symm⟩

/-- With fewer than `2 ^ 64` reports no event index has wrapped. -/
theorem Sourced.eventSource
    {tracker : OrderLifecycleTracker} {journal : ExecutionReportJournal}
    (sourced : Sourced tracker journal)
    (bound : journal.reports.length < 2 ^ 64) :
    EventSource tracker journal := by
  have unknownTypes :
      ∀ sequenceId, sequenceId ∉ tracker.records →
        typesFor journal sequenceId = [] := by
    intro sequenceId unknown
    rw [← types_journalBodies, sourced.unknown sequenceId unknown]
    rfl
  have knownTypes :
      ∀ sequenceId record,
        tracker.records.lookup sequenceId = some record →
          replay (typesFor journal sequenceId) = some record.state := by
    intro sequenceId record found
    rw [← types_journalBodies]
    exact (sourced.known sequenceId record found).state
  constructor
  · exact sourced.attached
  · intro position inside
    rw [sourced.consistent.indexes position inside]
    exact UInt64.toNat_ofNat_of_lt (lt_of_le_of_lt inside bound)
  · intro sequenceId
    rw [contains_iff]
    constructor
    · intro some
      by_contra unknown
      exact some (List.map_eq_nil_iff.mp (unknownTypes _ unknown))
    · intro known none
      rcases Finmap.mem_iff.mp known with ⟨record, found⟩
      have reached := knownTypes sequenceId record found
      rw [typesFor, none] at reached
      cases reached
  · intro sequenceId
    by_cases known : sequenceId ∈ tracker.records
    · rcases Finmap.mem_iff.mp known with ⟨record, found⟩
      exact replay_prefix (knownTypes sequenceId record found)
    · rw [unknownTypes sequenceId known]
      obtain ⟨word, member, _⟩ :=
        replay_prefix (show replay [.created] = some .created from rfl)
      exact ⟨word, member, List.nil_prefix⟩
  · intro sequenceId
    cases found : tracker.records.lookup sequenceId with
    | none =>
        have unknown : sequenceId ∉ tracker.records :=
          Finmap.lookup_eq_none.mp found
        rw [unknownTypes sequenceId unknown,
          (stateOf_eq_none_iff tracker sequenceId).mpr unknown]
        rfl
    | some record =>
        rw [knownTypes sequenceId record found]
        exact (stateOf_eq_some_iff _ _).mpr ⟨record, found, rfl⟩
  · intro sequenceId record found
    exact reason_iff RiskRejectReason.toString_injective
      (sourced.known sequenceId record found).risk
  · intro sequenceId record found
    exact reason_iff orderReasonString_injective
      (sourced.known sequenceId record found).exchange
  · intro sequenceId record found
    exact reason_iff cancelReasonString_injective
      (sourced.known sequenceId record found).cancel
  · intro sequenceId record found
    exact reason_iff amendReasonString_injective
      (sourced.known sequenceId record found).amend
  · exact sourced.counters
  · exact sourced.sources

/--
After any public calls on a new tracker with a new journal: the reports are
numbered from one, an order has reports exactly if it is tracked, they spell
the beginning of a life of the order, they determine its record, and the
counters count them.  A call that fails reports nothing.
-/
theorem run_journal_is_event_source (calls : List TrackerCall)
    (bound :
      (journalOf (run trackerStep journalling calls)).reports.length <
        2 ^ 64) :
    EventSource (run trackerStep journalling calls)
        (journalOf (run trackerStep journalling calls)) ∧
      ∀ entry ∈ events trackerStep journalling calls,
        entry.output = false →
          entry.after.executionReports = entry.before.executionReports ∧
            entry.after.records = entry.before.records ∧
            entry.after.counters = entry.before.counters := by
  constructor
  · obtain ⟨journal, sourced⟩ :=
      run_invariant trackerStep
        (fun tracker => ∃ journal, Sourced tracker journal)
        ⟨_, sourced_journalling⟩
        (fun _ call held => trackerStep_sourced call held) calls
    have same :
        journalOf (run trackerStep journalling calls) = journal := by
      rw [journalOf, sourced.attached]
      rfl
    rw [same] at bound ⊢
    exact sourced.eventSource bound
  · apply events_forall_of_step trackerStep
    intro tracker call fails
    rcases trackerStep_of_failure fails with ⟨error, unchanged⟩
    simp only [event, unchanged, failed_executionReports, failed_records,
      failed_counters, and_self]

/-- An order is accepted, cannot be cancelled at first, and is cancelled. -/
def cancelledAtLast : List TrackerCall :=
  [.registerQueued 5, .mark 5 .sent, .mark 5 .exchangeAccepted,
    .mark 5 .cancelPending, .mark 5 (.cancelRejected .invalidState),
    .mark 5 .sent, .mark 5 .cancelPending, .mark 5 .cancelled]

theorem run_journal_is_event_source_cancelledAtLast :
    EventSource (run trackerStep journalling cancelledAtLast)
      (journalOf (run trackerStep journalling cancelledAtLast)) :=
  (run_journal_is_event_source cancelledAtLast (by decide)).1

end Llgw.LifecycleEventSource
