import Llgw.Foundation.Decimal
import Llgw.Foundation.Delimiters
import Llgw.MarketDataParser
import Llgw.Reports

/-!
# The text of execution reports

`FormatExecutionReport` of `execution_report.cpp`.  The fields of a line are
neither quoted nor escaped.  A line can be read back all the same, since only
the last field is free text: what stands in front of it are numbers and names
without a space.
-/

namespace Llgw.ReportText

open Llgw.Foundation
open Llgw.Foundation.Delimiters
open Llgw.Messages
open Llgw.Risk
open Llgw.Reports
open Llgw.MarketDataParser

/-! ## Printing -/

/-- `ToString(ExecutionReportType)`. -/
def reportTypeString : ExecutionReportType → ByteString
  | .created => text "created"
  | .queued => text "queued"
  | .riskRejected => text "risk_rejected"
  | .sent => text "sent"
  | .exchangeAccepted => text "exchange_accepted"
  | .exchangeRejected => text "exchange_rejected"
  | .cancelPending => text "cancel_pending"
  | .cancelled => text "cancelled"
  | .cancelRejected => text "cancel_rejected"
  | .amendPending => text "amend_pending"
  | .amendAccepted => text "amend_accepted"
  | .amendRejected => text "amend_rejected"

/-- `ToString(ExecutionRejectSource)`. -/
def rejectSourceString : ExecutionRejectSource → ByteString
  | .none => text "none"
  | .risk => text "risk"
  | .exchange => text "exchange"
  | .cancel => text "cancel"
  | .amend => text "amend"

/-- An integer as a stream prints it in the default locale. -/
def printed (number : UInt64) : ByteString :=
  Decimal.numeral number.toNat

/-- `FormatExecutionReport`. -/
def formatExecutionReport (report : ExecutionReport) : ByteString :=
  text "event=" ++ printed report.eventIndex
    ++ text " sequence_id=" ++ printed report.sequenceId
    ++ text " type=" ++ reportTypeString report.type
    ++ text " reject_source=" ++ rejectSourceString report.rejectSource
    ++ text " reject_reason=" ++ report.rejectReason

theorem space_not_mem_reportTypeString (type : ExecutionReportType) :
    32 ∉ reportTypeString type := by
  cases type <;> decide

theorem space_not_mem_rejectSourceString
    (source : ExecutionRejectSource) : 32 ∉ rejectSourceString source := by
  cases source <;> decide

/-! ## Reading back -/

/-- The types of reports. -/
def reportTypes : List ExecutionReportType :=
  [.created, .queued, .riskRejected, .sent, .exchangeAccepted,
    .exchangeRejected, .cancelPending, .cancelled, .cancelRejected,
    .amendPending, .amendAccepted, .amendRejected]

/-- The sources of rejections. -/
def rejectSources : List ExecutionRejectSource :=
  [.none, .risk, .exchange, .cancel, .amend]

theorem mem_reportTypes (type : ExecutionReportType) :
    type ∈ reportTypes := by
  cases type <;> decide

theorem mem_rejectSources (source : ExecutionRejectSource) :
    source ∈ rejectSources := by
  cases source <;> decide

theorem reportTypeString_injective :
    Function.Injective reportTypeString :=
  injective_of_table mem_reportTypes (by decide +kernel)

theorem rejectSourceString_injective :
    Function.Injective rejectSourceString :=
  injective_of_table mem_rejectSources (by decide +kernel)

/-- A number that `std::from_chars` reads, and what follows it. -/
def readNumber (line : ByteString) : Option (UInt64 × ByteString) :=
  let read := fromCharsUnsigned UInt64.size UInt64.ofNat line
  if read.ec = .none then some (read.value, read.ptr) else none

/-- The report that a line was formatted from. -/
def decodeExecutionReport (line : ByteString) : Option ExecutionReport := do
  let line ← (text "event=").isPrefixOf? line
  let event ← readNumber line
  let line ← (text " sequence_id=").isPrefixOf? event.2
  let sequence ← readNumber line
  let line ← (text " type=").isPrefixOf? sequence.2
  let type ← readName 32 reportTypes reportTypeString line
  let line ← (text " reject_source=").isPrefixOf? type.2
  let source ← readName 32 rejectSources rejectSourceString line
  let reason ← (text " reject_reason=").isPrefixOf? source.2
  some
    { eventIndex := event.1
      sequenceId := sequence.1
      type := type.1
      rejectSource := source.1
      rejectReason := reason }

theorem isPrefixOf?_append (word rest : ByteString) :
    word.isPrefixOf? (word ++ rest) = some rest := by
  rw [List.isPrefixOf?_eq_some_iff_append_eq]

theorem digitsValue_eq_value (digits : ByteString) :
    digitsValue digits = Decimal.value digits := rfl

theorem isDigit_of_mem_numeral {number : Nat} :
    ∀ byte ∈ Decimal.numeral number, isDigit byte = true := by
  intro byte member
  rcases Decimal.mem_numeral member with ⟨low, high⟩
  rw [isDigit, Bool.and_eq_true, decide_eq_true_eq, decide_eq_true_eq]
  exact ⟨low, high⟩

/-- A numeral is read up to the end of its digits. -/
theorem scan_numeral (number : Nat) {rest : ByteString}
    (stops : ∀ byte ∈ rest.head?, isDigit byte = false) :
    (Decimal.numeral number ++ rest).takeWhile isDigit =
        Decimal.numeral number ∧
      (Decimal.numeral number ++ rest).dropWhile isDigit = rest := by
  rw [List.takeWhile_append_of_pos isDigit_of_mem_numeral,
    List.dropWhile_append_of_pos isDigit_of_mem_numeral]
  cases rest with
  | nil => exact ⟨List.append_nil _, rfl⟩
  | cons byte rest =>
      have other : isDigit byte = false := stops byte rfl
      rw [List.takeWhile_cons, List.dropWhile_cons, other]
      exact ⟨List.append_nil _, rfl⟩

/-- What was printed is read back in front of a space. -/
theorem readNumber_append (number : UInt64) (rest : ByteString) :
    readNumber (printed number ++ 32 :: rest) =
      some (number, 32 :: rest) := by
  have stops :
      ∀ byte ∈ (32 :: rest : ByteString).head?, isDigit byte = false := by
    rintro byte ⟨⟩
    rfl
  have scanned := scan_numeral number.toNat stops
  have read :
      fromCharsUnsigned UInt64.size UInt64.ofNat
          (printed number ++ 32 :: rest) =
        { ptr := 32 :: rest, ec := .none, value := number } := by
    rw [printed, fromCharsUnsigned, scanned.1, scanned.2,
      digitsValue_eq_value, Decimal.value_numeral]
    simp only [if_neg (Decimal.numeral_ne_nil _),
      if_pos number.toNat_lt_size, UInt64.ofNat_toNat]
  rw [readNumber, read]
  rfl

/-- Reading a formatted report gives the report back. -/
theorem decode_format (report : ExecutionReport) :
    decodeExecutionReport (formatExecutionReport report) = some report := by
  have sequence : text " sequence_id=" = 32 :: text "sequence_id=" := rfl
  have type : text " type=" = 32 :: text "type=" := rfl
  have source : text " reject_source=" = 32 :: text "reject_source=" := rfl
  have reason : text " reject_reason=" = 32 :: text "reject_reason=" := rfl
  have event (rest : ByteString) :=
    readNumber_append report.eventIndex (text "sequence_id=" ++ rest)
  have id (rest : ByteString) :=
    readNumber_append report.sequenceId (text "type=" ++ rest)
  have typeName (rest : ByteString) :=
    readName_append reportTypeString_injective
      (mem_reportTypes report.type)
      (space_not_mem_reportTypeString report.type)
      (text "reject_source=" ++ rest)
  have sourceName (rest : ByteString) :=
    readName_append rejectSourceString_injective
      (mem_rejectSources report.rejectSource)
      (space_not_mem_rejectSourceString report.rejectSource)
      (text "reject_reason=" ++ rest)
  simp only [← List.cons_append, ← sequence, ← type, ← source, ← reason]
    at event id typeName sourceName
  simp only [formatExecutionReport, List.append_assoc,
    decodeExecutionReport, isPrefixOf?_append, Option.bind_eq_bind,
    Option.bind_some, event, id, typeName, sourceName]

example :
    decodeExecutionReport
        (text "event=5 sequence_id=42 type=exchange_rejected" ++
          text " reject_source=exchange reject_reason=duplicate_sequence") =
      some
        { eventIndex := 5
          sequenceId := 42
          type := .exchangeRejected
          rejectSource := .exchange
          rejectReason := text "duplicate_sequence" } := by
  decide +kernel

theorem formatExecutionReport_injective :
    Function.Injective formatExecutionReport := by
  intro left right equal
  have decoded := congrArg decodeExecutionReport equal
  rw [decode_format, decode_format] at decoded
  exact Option.some.inj decoded

/-! ## Lines of a journal -/

/-- The reason with which a journal method was called, if it takes one. -/
inductive TypedReason where
  | none
  | risk (reason : RiskRejectReason)
  | order (reason : OrderRejectReason)
  | cancel (reason : CancelRejectReason)
  | amend (reason : AmendRejectReason)
deriving DecidableEq

/-- A call of a journal method, without its sequence id. -/
inductive JournalCall where
  | recordState (type : ExecutionReportType)
  | recordRiskRejected (reason : RiskRejectReason)
  | recordExchangeRejected (reason : OrderRejectReason)
  | recordCancelRejected (reason : CancelRejectReason)
  | recordAmendRejected (reason : AmendRejectReason)

namespace JournalCall

def typedReason : JournalCall → TypedReason
  | .recordState _ => .none
  | .recordRiskRejected reason => .risk reason
  | .recordExchangeRejected reason => .order reason
  | .recordCancelRejected reason => .cancel reason
  | .recordAmendRejected reason => .amend reason

/-- The journal after a call. -/
def applyTo (journal : ExecutionReportJournal) (sequenceId : UInt64) :
    JournalCall → ExecutionReportJournal
  | .recordState type => journal.recordState sequenceId type
  | .recordRiskRejected reason =>
      journal.recordRiskRejected sequenceId reason
  | .recordExchangeRejected reason =>
      journal.recordExchangeRejected sequenceId reason
  | .recordCancelRejected reason =>
      journal.recordCancelRejected sequenceId reason
  | .recordAmendRejected reason =>
      journal.recordAmendRejected sequenceId reason

/-- The report that a call appends. -/
def report (eventIndex sequenceId : UInt64) (call : JournalCall) :
    ExecutionReport where
  eventIndex := eventIndex
  sequenceId := sequenceId
  type :=
    match call with
    | .recordState type => type
    | .recordRiskRejected _ => .riskRejected
    | .recordExchangeRejected _ => .exchangeRejected
    | .recordCancelRejected _ => .cancelRejected
    | .recordAmendRejected _ => .amendRejected
  rejectSource :=
    match call with
    | .recordState _ => .none
    | .recordRiskRejected _ => .risk
    | .recordExchangeRejected _ => .exchange
    | .recordCancelRejected _ => .cancel
    | .recordAmendRejected _ => .amend
  rejectReason :=
    match call with
    | .recordState _ => text "none"
    | .recordRiskRejected reason => reason.toString
    | .recordExchangeRejected reason => orderReasonString reason
    | .recordCancelRejected reason => cancelReasonString reason
    | .recordAmendRejected reason => amendReasonString reason

theorem reports_applyTo (journal : ExecutionReportJournal)
    (sequenceId : UInt64) (call : JournalCall) :
    (call.applyTo journal sequenceId).reports =
      journal.reports ++
        [call.report journal.nextEventIndex sequenceId] := by
  cases call <;> rfl

end JournalCall

/-! ### Typed reasons of lines -/

def riskReasons : List RiskRejectReason :=
  [.none, .invalidSymbol, .invalidPrice, .invalidQuantity, .quantityLimit,
    .notionalLimit, .symbolNotAllowed]

def orderReasons : List OrderRejectReason :=
  [.none, .invalidSymbol, .invalidPrice, .invalidQuantity,
    .duplicateSequence]

def cancelReasons : List CancelRejectReason :=
  [.none, .unknownOrder, .invalidState]

def amendReasons : List AmendRejectReason :=
  [.none, .unknownOrder, .invalidPrice, .invalidQuantity, .invalidState]

/-- The typed reason of a report, which its source and its text determine. -/
def reasonOf (report : ExecutionReport) : Option TypedReason :=
  match report.rejectSource with
  | .none => some .none
  | .risk =>
      (valueOf riskReasons RiskRejectReason.toString
        report.rejectReason).map .risk
  | .exchange =>
      (valueOf orderReasons orderReasonString report.rejectReason).map
        .order
  | .cancel =>
      (valueOf cancelReasons cancelReasonString report.rejectReason).map
        .cancel
  | .amend =>
      (valueOf amendReasons amendReasonString report.rejectReason).map
        .amend

/-- The typed reason that a line was recorded for. -/
def decodeReason (line : ByteString) : Option TypedReason := do
  let report ← decodeExecutionReport line
  reasonOf report

/-- A report of a journal call: a line of text that gives its reason. -/
structure LineOf (call : JournalCall) (report : ExecutionReport) : Prop where
  singleLine : 10 ∉ formatExecutionReport report
  reason :
    decodeReason (formatExecutionReport report) = some call.typedReason

theorem newline_not_mem_printed (number : UInt64) :
    10 ∉ printed number := by
  intro member
  exact absurd (Decimal.mem_numeral member).1 (by decide)

/-- Only the reason of a report could break its line. -/
theorem newline_not_mem_format {report : ExecutionReport}
    (none : 10 ∉ report.rejectReason) :
    10 ∉ formatExecutionReport report := by
  have type : 10 ∉ reportTypeString report.type := by
    cases report.type <;> decide
  have source : 10 ∉ rejectSourceString report.rejectSource := by
    cases report.rejectSource <;> decide
  have labels :
      10 ∉ text "event=" ∧ 10 ∉ text " sequence_id=" ∧
        10 ∉ text " type=" ∧ 10 ∉ text " reject_source=" ∧
        10 ∉ text " reject_reason=" := by
    decide
  simp only [formatExecutionReport, List.mem_append, not_or]
  simp only [labels, type, source, none, newline_not_mem_printed,
    not_false_eq_true, and_self]

/-- No reason that a call gives breaks a line. -/
theorem newline_not_mem_reason (eventIndex sequenceId : UInt64)
    (call : JournalCall) :
    10 ∉ (call.report eventIndex sequenceId).rejectReason := by
  cases call with
  | recordState type =>
      show 10 ∉ text "none"
      decide
  | recordRiskRejected reason
  | recordExchangeRejected reason
  | recordCancelRejected reason
  | recordAmendRejected reason =>
      cases reason
      all_goals
        simp only [JournalCall.report]
        decide

/-- The source and the text of a report give the reason of its call. -/
theorem reasonOf_report (eventIndex sequenceId : UInt64)
    (call : JournalCall) :
    reasonOf (call.report eventIndex sequenceId) =
      some call.typedReason := by
  cases call with
  | recordState type => rfl
  | recordRiskRejected reason =>
      have named :=
        valueOf_name RiskRejectReason.toString_injective
          (show reason ∈ riskReasons by cases reason <;> decide)
      exact congrArg (Option.map TypedReason.risk) named
  | recordExchangeRejected reason =>
      have named :=
        valueOf_name orderReasonString_injective
          (show reason ∈ orderReasons by cases reason <;> decide)
      exact congrArg (Option.map TypedReason.order) named
  | recordCancelRejected reason =>
      have named :=
        valueOf_name cancelReasonString_injective
          (show reason ∈ cancelReasons by cases reason <;> decide)
      exact congrArg (Option.map TypedReason.cancel) named
  | recordAmendRejected reason =>
      have named :=
        valueOf_name amendReasonString_injective
          (show reason ∈ amendReasons by cases reason <;> decide)
      exact congrArg (Option.map TypedReason.amend) named

theorem lineOf_report (eventIndex sequenceId : UInt64)
    (call : JournalCall) :
    LineOf call (call.report eventIndex sequenceId) where
  singleLine :=
    newline_not_mem_format (newline_not_mem_reason eventIndex sequenceId call)
  reason := by
    rw [decodeReason, decode_format]
    exact reasonOf_report eventIndex sequenceId call

/-- A journal after any calls, each with its sequence id. -/
def recordAll (journal : ExecutionReportJournal)
    (calls : List (UInt64 × JournalCall)) : ExecutionReportJournal :=
  calls.foldl (fun journal call => call.2.applyTo journal call.1) journal

/-- The run lemma: every call appends a line that gives its reason. -/
theorem recordAll_lines (journal : ExecutionReportJournal)
    (calls : List (UInt64 × JournalCall)) :
    ∃ recorded,
      (recordAll journal calls).reports = journal.reports ++ recorded ∧
        List.Forall₂ (fun call report => LineOf call.2 report) calls
          recorded := by
  induction calls generalizing journal with
  | nil => exact ⟨[], (List.append_nil _).symm, .nil⟩
  | cons call calls induction =>
      rcases induction (call.2.applyTo journal call.1) with
        ⟨recorded, appended, lines⟩
      have first := call.2.reports_applyTo journal call.1
      refine ⟨call.2.report journal.nextEventIndex call.1 :: recorded, ?_,
        .cons (lineOf_report _ _ _) lines⟩
      rw [recordAll, List.foldl_cons]
      rw [recordAll, first, List.append_assoc] at appended
      exact appended

/--
The text of a report is lossless: it is read back as the report, so different
reports have different texts.  The texts of a journal are single lines, each
of which determines the typed reason that it was recorded for.
-/
theorem report_text_lossless :
    (∀ report,
      decodeExecutionReport (formatExecutionReport report) =
        some report) ∧
      Function.Injective formatExecutionReport ∧
      ∀ journal calls, ∃ recorded,
        (recordAll journal calls).reports = journal.reports ++ recorded ∧
          List.Forall₂ (fun call report => LineOf call.2 report) calls
            recorded := by
  constructor
  · exact decode_format
  constructor
  · exact formatExecutionReport_injective
  · exact recordAll_lines

end Llgw.ReportText
