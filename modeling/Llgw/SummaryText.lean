import Llgw.FeedFile
import Llgw.ReportText

/-!
# The text of the summary

What `main.cpp` prints when a replay has succeeded: titles, figures and the
reports of the journal, one to a line.  The lines can be told apart and read
back.
-/

namespace Llgw.SummaryText

open Llgw.Foundation
open Llgw.Foundation.Delimiters
open Llgw.Messages
open Llgw.Reports
open Llgw.ReportText
open Llgw.MarketDataParser
open Llgw.FeedFile

/-! ## Lines -/

inductive Line where
  | title (name : ByteString)
  | figure (label : ByteString) (value : UInt64)
  | report (report : ExecutionReport)
deriving DecidableEq

/-- A line as it is printed, without its end. -/
def Line.content : Line → ByteString
  | .title name => name
  | .figure label value =>
      text "  " ++ (label ++ (text "=" ++ printed value))
  | .report entry => text "  " ++ formatExecutionReport entry

/-- Lines as they are printed. -/
def printLines (lines : List Line) : ByteString :=
  lines.flatMap fun line => line.content ++ [10]

/-! ## Reading back -/

/-- The figure that stands in a line. -/
def readFigure (content : ByteString) : Option Line := do
  let label := content.takeWhile (· ≠ 61)
  let rest ← (text "=").isPrefixOf? (content.dropWhile (· ≠ 61))
  let value ← readNumber rest
  if value.2 = [] then some (.figure label value.1) else none

/-- The line with this content. -/
def readLine (content : ByteString) : Option Line :=
  match (text "  ").isPrefixOf? content with
  | none => some (.title content)
  | some content =>
      match decodeExecutionReport content with
      | some report => some (.report report)
      | none => readFigure content

/-- The lines of a printed text. -/
def readLines (output : ByteString) : Option (List Line) :=
  (fileLines output).mapM readLine

/-- A line that is not mistaken for another one. -/
def Readable : Line → Prop
  | .title name => 10 ∉ name ∧ (text "  ").isPrefixOf? name = none
  | .figure label _ => 10 ∉ label ∧ 61 ∉ label ∧ label ≠ text "event"
  | .report report => 10 ∉ report.rejectReason

theorem newline_not_mem_content {line : Line} (readable : Readable line) :
    10 ∉ line.content := by
  have indent : 10 ∉ text "  " ∧ 10 ∉ text "=" := by decide
  cases line with
  | title name => exact readable.1
  | figure label value =>
      simp only [Line.content, List.mem_append, not_or]
      exact
        ⟨indent.1, readable.1, indent.2, newline_not_mem_printed value⟩
  | report report =>
      rw [Line.content, List.mem_append, not_or]
      exact ⟨indent.1, newline_not_mem_format readable⟩

/-- A figure does not look like a report. -/
theorem decode_figure {label : ByteString} (readable : 61 ∉ label)
    (other : label ≠ text "event") (rest : ByteString) :
    decodeExecutionReport (label ++ (text "=" ++ rest)) = none := by
  cases event :
      (text "event=").isPrefixOf? (label ++ (text "=" ++ rest)) with
  | none => rw [decodeExecutionReport, event]; rfl
  | some after =>
      rw [List.isPrefixOf?_eq_some_iff_append_eq] at event
      have start :
          (text "event" ++ 61 :: after).takeWhile (· ≠ 61) =
            (label ++ 61 :: rest).takeWhile (· ≠ 61) :=
        congrArg (List.takeWhile (· ≠ 61)) event
      rw [takeWhile_append_cons (by decide),
        takeWhile_append_cons readable] at start
      exact absurd start.symm other

/-- What was printed is read back at the end of a line. -/
theorem readNumber_printed (number : UInt64) :
    readNumber (printed number) = some (number, []) := by
  have stops :
      ∀ byte ∈ ([] : ByteString).head?, isDigit byte = false := by
    intro byte member
    contradiction
  have scanned := scan_numeral number.toNat stops
  rw [List.append_nil] at scanned
  rw [readNumber, printed, fromCharsUnsigned, scanned.1, scanned.2,
    digitsValue_eq_value, Decimal.value_numeral]
  simp only [if_neg (Decimal.numeral_ne_nil _),
    if_pos number.toNat_lt_size, UInt64.ofNat_toNat, if_true]

theorem readFigure_content {label : ByteString} (readable : 61 ∉ label)
    (value : UInt64) :
    readFigure (label ++ (text "=" ++ printed value)) =
      some (.figure label value) := by
  have sign : text "=" ++ printed value = 61 :: printed value := rfl
  rw [readFigure, sign, takeWhile_append_cons readable,
    dropWhile_append_cons readable, ← sign, isPrefixOf?_append]
  simp only [Option.bind_eq_bind, Option.bind_some, readNumber_printed,
    if_true]

theorem readLine_content {line : Line} (readable : Readable line) :
    readLine line.content = some line := by
  cases line with
  | title name => rw [Line.content, readLine, readable.2]
  | figure label value =>
      simp only [Line.content, readLine, isPrefixOf?_append,
        decode_figure readable.2.1 readable.2.2,
        readFigure_content readable.2.1]
  | report report =>
      simp only [Line.content, readLine, isPrefixOf?_append, decode_format]

/-- Printed lines are read back. -/
theorem readLines_printLines {lines : List Line}
    (readable : ∀ line ∈ lines, Readable line) :
    readLines (printLines lines) = some lines := by
  induction lines with
  | nil => rw [printLines, List.flatMap_nil, readLines, fileLines_nil]; rfl
  | cons line lines induction =>
      rw [List.forall_mem_cons] at readable
      have later := induction readable.2
      rw [readLines] at later
      rw [readLines, printLines, List.flatMap_cons, List.append_assoc,
        List.singleton_append,
        fileLines_terminated (newline_not_mem_content readable.1),
        List.mapM_cons, readLine_content readable.1]
      rw [printLines] at later
      rw [later]
      rfl

end Llgw.SummaryText
