import Llgw.Risk

/-!
# The execution-report journal

`ExecutionReportJournal` of `execution_report.hpp` and
`execution_report.cpp`: an append-only list of reports with a one-based event
index and four statistics counters.
-/

namespace Llgw.Reports

open Llgw.Messages
open Llgw.Risk

inductive ExecutionReportType where
  | created
  | queued
  | riskRejected
  | sent
  | exchangeAccepted
  | exchangeRejected
  | cancelPending
  | cancelled
  | cancelRejected
  | amendPending
  | amendAccepted
  | amendRejected
deriving DecidableEq, Repr

inductive ExecutionRejectSource where
  | none
  | risk
  | exchange
  | cancel
  | amend
deriving DecidableEq, Repr

structure ExecutionReport where
  eventIndex : UInt64 := 0
  sequenceId : UInt64 := 0
  type : ExecutionReportType := .created
  rejectSource : ExecutionRejectSource := .none
  rejectReason : ByteString := text "none"
deriving DecidableEq

/-! ## Names of reasons and kinds of reports -/

/-- `OrderReasonString`. -/
def orderReasonString : OrderRejectReason → ByteString
  | .none => text "none"
  | .invalidSymbol => text "invalid_symbol"
  | .invalidPrice => text "invalid_price"
  | .invalidQuantity => text "invalid_quantity"
  | .duplicateSequence => text "duplicate_sequence"

/-- `CancelReasonString`. -/
def cancelReasonString : CancelRejectReason → ByteString
  | .none => text "none"
  | .unknownOrder => text "unknown_order"
  | .invalidState => text "invalid_state"

/-- `AmendReasonString`. -/
def amendReasonString : AmendRejectReason → ByteString
  | .none => text "none"
  | .unknownOrder => text "unknown_order"
  | .invalidPrice => text "invalid_price"
  | .invalidQuantity => text "invalid_quantity"
  | .invalidState => text "invalid_state"

theorem orderReasonString_injective :
    Function.Injective orderReasonString := by
  intro left right equal
  cases left <;> cases right <;> first | rfl | exact absurd equal (by decide)

theorem cancelReasonString_injective :
    Function.Injective cancelReasonString := by
  intro left right equal
  cases left <;> cases right <;> first | rfl | exact absurd equal (by decide)

theorem amendReasonString_injective :
    Function.Injective amendReasonString := by
  intro left right equal
  cases left <;> cases right <;> first | rfl | exact absurd equal (by decide)

/-- `IsActionReport`. -/
def isActionReport : ExecutionReportType → Bool
  | .cancelPending | .cancelled | .cancelRejected
  | .amendPending | .amendAccepted | .amendRejected => true
  | .created | .queued | .riskRejected
  | .sent | .exchangeAccepted | .exchangeRejected => false

/-! ## The journal -/

structure ExecutionReportJournal where
  reports : List ExecutionReport := []
  nextEventIndex : UInt64 := 1
  reportsRecorded : Nat := 0
  rejectionReports : Nat := 0
  orderReports : Nat := 0
  actionReports : Nat := 0

namespace ExecutionReportJournal

/-- `ExecutionReportJournal::Record`. -/
def record (journal : ExecutionReportJournal) (sequenceId : UInt64)
    (type : ExecutionReportType) (rejectSource : ExecutionRejectSource)
    (rejectReason : ByteString) : ExecutionReportJournal where
  reports :=
    journal.reports ++
      [{ eventIndex := journal.nextEventIndex
         sequenceId := sequenceId
         type := type
         rejectSource := rejectSource
         rejectReason := rejectReason }]
  nextEventIndex := journal.nextEventIndex + 1
  reportsRecorded := journal.reportsRecorded + 1
  rejectionReports :=
    if rejectSource ≠ .none then journal.rejectionReports + 1
    else journal.rejectionReports
  orderReports :=
    if isActionReport type then journal.orderReports
    else journal.orderReports + 1
  actionReports :=
    if isActionReport type then journal.actionReports + 1
    else journal.actionReports

/-- `ExecutionReportJournal::RecordState`. -/
def recordState (journal : ExecutionReportJournal) (sequenceId : UInt64)
    (type : ExecutionReportType) : ExecutionReportJournal :=
  journal.record sequenceId type .none (text "none")

/-- `ExecutionReportJournal::RecordRiskRejected`. -/
def recordRiskRejected (journal : ExecutionReportJournal)
    (sequenceId : UInt64) (reason : RiskRejectReason) :
    ExecutionReportJournal :=
  journal.record sequenceId .riskRejected .risk reason.toString

/-- `ExecutionReportJournal::RecordExchangeRejected`. -/
def recordExchangeRejected (journal : ExecutionReportJournal)
    (sequenceId : UInt64) (reason : OrderRejectReason) :
    ExecutionReportJournal :=
  journal.record sequenceId .exchangeRejected .exchange
    (orderReasonString reason)

/-- `ExecutionReportJournal::RecordCancelRejected`. -/
def recordCancelRejected (journal : ExecutionReportJournal)
    (sequenceId : UInt64) (reason : CancelRejectReason) :
    ExecutionReportJournal :=
  journal.record sequenceId .cancelRejected .cancel
    (cancelReasonString reason)

/-- `ExecutionReportJournal::RecordAmendRejected`. -/
def recordAmendRejected (journal : ExecutionReportJournal)
    (sequenceId : UInt64) (reason : AmendRejectReason) :
    ExecutionReportJournal :=
  journal.record sequenceId .amendRejected .amend
    (amendReasonString reason)

/-- `ExecutionReportJournal::ReportsFor`. -/
def reportsFor (journal : ExecutionReportJournal) (sequenceId : UInt64) :
    List ExecutionReport :=
  journal.reports.filter fun report => report.sequenceId == sequenceId

/-! ## Queries after one more report -/

theorem reportsFor_record_self
    (journal : ExecutionReportJournal) (sequenceId : UInt64)
    (type : ExecutionReportType) (source : ExecutionRejectSource)
    (reason : ByteString) :
    (journal.record sequenceId type source reason).reportsFor sequenceId =
      journal.reportsFor sequenceId ++
        [{ eventIndex := journal.nextEventIndex
           sequenceId := sequenceId
           type := type
           rejectSource := source
           rejectReason := reason }] := by
  simp [reportsFor, record, List.filter_append]

theorem reportsFor_record_of_ne
    (journal : ExecutionReportJournal) {sequenceId other : UInt64}
    (different : other ≠ sequenceId)
    (type : ExecutionReportType) (source : ExecutionRejectSource)
    (reason : ByteString) :
    (journal.record sequenceId type source reason).reportsFor other =
      journal.reportsFor other := by
  simp [reportsFor, record, List.filter_append, different.symm]

/--
The bookkeeping invariant of a journal: indexes count from one without gaps,
every report is counted once, as an order or an action report, and the
rejection reports are those with a source.
-/
structure Consistent (journal : ExecutionReportJournal) : Prop where
  next :
    journal.nextEventIndex = UInt64.ofNat (journal.reports.length + 1)
  indexes :
    ∀ position (bound : position < journal.reports.length),
      journal.reports[position].eventIndex = UInt64.ofNat (position + 1)
  recorded : journal.reportsRecorded = journal.reports.length
  parts :
    journal.orderReports + journal.actionReports = journal.reportsRecorded
  rejections :
    journal.rejectionReports =
      (journal.reports.filter fun report =>
        report.rejectSource ≠ .none).length

theorem consistent_fresh : ({} : ExecutionReportJournal).Consistent where
  next := rfl
  indexes := by simp
  recorded := rfl
  parts := rfl
  rejections := rfl

theorem Consistent.record
    {journal : ExecutionReportJournal} (consistent : journal.Consistent)
    (sequenceId : UInt64) (type : ExecutionReportType)
    (source : ExecutionRejectSource) (reason : ByteString) :
    (journal.record sequenceId type source reason).Consistent where
  next := by
    simp only [ExecutionReportJournal.record, consistent.next,
      List.length_append, List.length_singleton, UInt64.ofNat_add]
    rfl
  indexes := by
    intro position bound
    simp only [ExecutionReportJournal.record] at bound ⊢
    rw [List.length_append, List.length_singleton] at bound
    rcases Nat.lt_succ_iff_lt_or_eq.mp bound with older | newest
    · rw [List.getElem_append_left older]
      exact consistent.indexes position older
    · subst newest
      simp [consistent.next]
  recorded := by
    simp [ExecutionReportJournal.record, consistent.recorded]
  parts := by
    have parts := consistent.parts
    simp only [ExecutionReportJournal.record]
    split_ifs <;> omega
  rejections := by
    simp only [ExecutionReportJournal.record, consistent.rejections,
      List.filter_append, List.length_append]
    split_ifs with rejected <;> simp [rejected]

end ExecutionReportJournal

end Llgw.Reports
