import Llgw.Foundation.Delimiters
import Llgw.MarketSanity

/-!
# The grammar of market data lines

A line is accepted if it has six fields separated by commas, the first of
which is not empty, if the others are numbers of their kinds, and if the
numbers are a market.  This module states the grammar in terms of the content
of a line, without the loop and the sequence of checks of the parser, and
proves that every status is given to exactly the lines that it describes.
-/

namespace Llgw.MarketDataGrammar

open Llgw.Foundation
open Llgw.Messages
open Llgw.MarketDataParser
open Llgw.MarketSanity

/-! ## The grammar -/

/-- A line is its content, or its content and one carriage return. -/
def HasContent (line content : ByteString) : Prop :=
  line = content ++ [13] ∨
    line = content ∧ ∀ front, line ≠ front ++ [13]

/-- Five commas, the first of which is not at the beginning. -/
structure SixFields (content : ByteString) : Prop where
  commas : content.count 44 = 5
  named : content.head? ≠ some 44

/-- The text between commas, counted from one. -/
def field (content : ByteString) (number : Nat) : ByteString :=
  (content.splitOn 44).getD (number - 1) []

/-- A field that `std::from_chars` consumes as a `double` without error. -/
structure DoubleField (text : ByteString) : Prop where
  filled : text ≠ []
  ec : (fromCharsDouble text).ec = .none
  ptr : (fromCharsDouble text).ptr = []

/-- One or more decimal digits that spell a number below `size`. -/
structure IntegerField (size : Nat) (text : ByteString) : Prop where
  filled : text ≠ []
  digits : ∀ byte ∈ text, isDigit byte = true
  inRange : digitsValue text < size

/-- Fields two to six are numbers of their kinds. -/
structure Numbers (content : ByteString) : Prop where
  bidPrice : DoubleField (field content 2)
  bidSize : IntegerField UInt32.size (field content 3)
  askPrice : DoubleField (field content 4)
  askSize : IntegerField UInt32.size (field content 5)
  timestamp : IntegerField UInt64.size (field content 6)

/-- The update that the fields of a content spell. -/
def spelledUpdate (content : ByteString) : MarketDataUpdate where
  symbol := field content 1
  bidPrice := (fromCharsDouble (field content 2)).value
  bidSize := .ofNat (digitsValue (field content 3))
  askPrice := (fromCharsDouble (field content 4)).value
  askSize := .ofNat (digitsValue (field content 5))
  exchangeTsNs := .ofNat (digitsValue (field content 6))

/-- The comparisons of the market check, with the semantics of IEEE 754. -/
def NoMarket (update : MarketDataUpdate) : Prop :=
  update.bidPrice ≤ 0.0 ∨ update.askPrice ≤ 0.0 ∨
    update.bidPrice > update.askPrice ∨ update.bidSize = 0 ∨
    update.askSize = 0

/-- A result is the one that the grammar calls for. -/
structure Classified (content : ByteString) (result : ParseResult) :
    Prop where
  emptyInput : result.status = .emptyInput ↔ content = []
  wrongFieldCount :
    result.status = .wrongFieldCount ↔
      content ≠ [] ∧ ¬ SixFields content
  invalidNumber :
    result.status = .invalidNumber ↔
      content ≠ [] ∧ SixFields content ∧ ¬ Numbers content
  invalidMarket :
    result.status = .invalidMarket ↔
      content ≠ [] ∧ SixFields content ∧ Numbers content ∧
        NoMarket (spelledUpdate content)
  ok :
    result.status = .ok ↔
      content ≠ [] ∧ SixFields content ∧ Numbers content ∧
        ¬ NoMarket (spelledUpdate content)
  update : result.status = .ok → result.update = spelledUpdate content
  default : result.status ≠ .ok → result.update = {}

/-! ## Contents -/

theorem hasContent_stripTrailingCarriageReturn (line : ByteString) :
    HasContent line (stripTrailingCarriageReturn line) := by
  unfold stripTrailingCarriageReturn
  split_ifs with returned
  · left
    exact (List.dropLast_append_getLast? 13 returned).symm
  · right
    refine ⟨rfl, ?_⟩
    rintro front rfl
    exact returned (by simp)

/-! ## Fields -/

/-- The loop finds the fields if it is to fill as many as there are. -/
theorem splitLoop_eq (missing : Nat) (content : ByteString) :
    splitLoop missing content =
      if content.count 44 + 1 = missing then some (content.splitOn 44)
      else none := by
  induction missing generalizing content with
  | zero => rfl
  | succ missing induction =>
      by_cases comma : 44 ∈ content
      · obtain ⟨front, after, rfl, none⟩ :=
          List.eq_append_cons_of_mem comma
        rw [splitLoop, Delimiters.takeWhile_append_cons none,
          Delimiters.dropWhile_append_cons none]
        simp only [induction, List.count_append,
          List.count_eq_zero_of_not_mem none, List.count_cons_self,
          Nat.zero_add, Nat.add_right_cancel_iff,
          List.splitOn_append_cons_self_of_not_mem none]
        split_ifs <;> rfl
      · rw [splitLoop, Delimiters.takeWhile_of_not_mem comma,
          Delimiters.dropWhile_of_not_mem comma]
        simp only [List.count_eq_zero_of_not_mem comma, Nat.zero_add,
          List.splitOn_eq_singleton comma]
        cases missing <;> simp

/-- A content with five commas has six fields. -/
theorem splitCsvLine_of_commas {content : ByteString}
    (commas : content.count 44 = 5) :
    splitCsvLine content =
      some
        [field content 1, field content 2, field content 3,
          field content 4, field content 5, field content 6] := by
  have found :
      splitCsvLine content = some (content.splitOn 44) := by
    rw [splitCsvLine, splitLoop_eq, if_pos]
    rw [commas, kExpectedFieldCount]
  have length : (content.splitOn 44).length = 6 := by
    rw [Delimiters.length_splitOn, commas]
  rw [found]
  congr 1
  apply List.ext_getElem
  · exact length
  · intro position inside bound
    match position with
    | 0 | 1 | 2 | 3 | 4 | 5 => simp [field, inside]
    | position + 6 => exact absurd bound (by simp)

theorem splitCsvLine_of_other {content : ByteString}
    (commas : content.count 44 ≠ 5) : splitCsvLine content = none := by
  rw [splitCsvLine, splitLoop_eq, if_neg]
  intro equal
  exact commas (Nat.succ.inj equal)

/-- The first field is empty if the content begins with a comma. -/
theorem field_one_eq_nil_iff {content : ByteString}
    (commas : content.count 44 = 5) :
    field content 1 = [] ↔ content.head? = some 44 := by
  have comma : 44 ∈ content := by
    rw [← List.count_pos_iff, commas]
    exact Nat.succ_pos 4
  rcases List.eq_append_cons_of_mem comma with ⟨front, after, rfl, none⟩
  rw [field, List.splitOn_append_cons_self_of_not_mem none]
  cases front with
  | nil => simp
  | cons first rest =>
      have different : first ≠ 44 := by
        rintro rfl
        exact none List.mem_cons_self
      simp [different]

/-! ## Numbers -/

theorem parseField_eq_some_iff {Value : Type}
    {fromChars : ByteString → FromCharsResult Value} {text : ByteString}
    {value : Value} :
    parseField fromChars text = some value ↔
      text ≠ [] ∧ (fromChars text).ec = .none ∧
        (fromChars text).ptr = [] ∧ (fromChars text).value = value := by
  unfold parseField
  split_ifs with empty
  · simp [empty]
  · simp [empty, and_assoc]

theorem parseDouble_eq_some_iff_field {text : ByteString} {price : Float} :
    parseDouble text = some price ↔
      DoubleField text ∧ (fromCharsDouble text).value = price := by
  rw [parseDouble, parseField_eq_some_iff]
  constructor
  · rintro ⟨filled, ec, ptr, value⟩
    exact ⟨⟨filled, ec, ptr⟩, value⟩
  · rintro ⟨⟨filled, ec, ptr⟩, value⟩
    exact ⟨filled, ec, ptr, value⟩

/-- The integer overloads consume all of a field made of digits in range. -/
theorem fromCharsUnsigned_iff {Value : Type} (size : Nat)
    (ofNat : Nat → Value) {text : ByteString} (filled : text ≠ []) :
    ((fromCharsUnsigned size ofNat text).ec = .none ∧
        (fromCharsUnsigned size ofNat text).ptr = []) ↔
      (∀ byte ∈ text, isDigit byte = true) ∧ digitsValue text < size := by
  by_cases digits : ∀ byte ∈ text, isDigit byte = true
  · have read : text.takeWhile isDigit = text :=
      List.takeWhile_eq_self_iff.mpr digits
    have left : text.dropWhile isDigit = [] :=
      List.dropWhile_eq_nil_iff.mpr digits
    simp only [fromCharsUnsigned, read, left, if_neg filled]
    split_ifs with inRange
    · exact iff_of_true ⟨rfl, rfl⟩ ⟨digits, inRange⟩
    · refine iff_of_false ?_ (fun both => inRange both.2)
      rintro ⟨ec, _⟩
      cases ec
  · refine iff_of_false ?_ (fun both => digits both.1)
    rintro ⟨ec, ptr⟩
    have left : text.dropWhile isDigit ≠ [] := by
      rw [Ne, List.dropWhile_eq_nil_iff]
      exact digits
    simp only [fromCharsUnsigned] at ec ptr
    split_ifs at ec ptr
    exact left ptr

theorem fromCharsUnsigned_value {Value : Type} {size : Nat}
    (ofNat : Nat → Value) {text : ByteString}
    (integer : IntegerField size text) :
    (fromCharsUnsigned size ofNat text).value =
      ofNat (digitsValue text) := by
  have read : text.takeWhile isDigit = text :=
    List.takeWhile_eq_self_iff.mpr integer.digits
  simp only [fromCharsUnsigned, read, if_neg integer.filled,
    if_pos integer.inRange]

theorem parseUnsigned_eq_some_iff {Value : Type} {size : Nat}
    {ofNat : Nat → Value} {text : ByteString} {value : Value} :
    parseField (fromCharsUnsigned size ofNat) text = some value ↔
      IntegerField size text ∧ ofNat (digitsValue text) = value := by
  rw [parseField_eq_some_iff]
  constructor
  · rintro ⟨filled, ec, ptr, same⟩
    obtain ⟨digits, inRange⟩ :=
      (fromCharsUnsigned_iff size ofNat filled).mp ⟨ec, ptr⟩
    have integer : IntegerField size text := ⟨filled, digits, inRange⟩
    rw [fromCharsUnsigned_value ofNat integer] at same
    exact ⟨integer, same⟩
  · rintro ⟨integer, same⟩
    obtain ⟨ec, ptr⟩ :=
      (fromCharsUnsigned_iff size ofNat integer.filled).mpr
        ⟨integer.digits, integer.inRange⟩
    refine ⟨integer.filled, ec, ptr, ?_⟩
    rw [fromCharsUnsigned_value ofNat integer]
    exact same

/-- The fields of a content are parsed if they are numbers of their kinds. -/
theorem parseUpdate_fields_iff (content : ByteString)
    (update : MarketDataUpdate) :
    parseUpdate (field content 1) (field content 2) (field content 3)
        (field content 4) (field content 5) (field content 6) =
        some update ↔
      Numbers content ∧ update = spelledUpdate content := by
  rw [parseUpdate_eq_some_iff, parseDouble_eq_some_iff_field,
    parseDouble_eq_some_iff_field, parseUint32, parseUint32, parseUint64,
    parseUnsigned_eq_some_iff, parseUnsigned_eq_some_iff,
    parseUnsigned_eq_some_iff]
  constructor
  · rintro ⟨symbol, ⟨bid, bidValue⟩, ⟨bidSize, bidSizeValue⟩,
      ⟨ask, askValue⟩, ⟨askSize, askSizeValue⟩, ⟨time, timeValue⟩⟩
    refine ⟨⟨bid, bidSize, ask, askSize, time⟩, ?_⟩
    rw [spelledUpdate, symbol, bidValue, bidSizeValue, askValue,
      askSizeValue, timeValue]
  · rintro ⟨numbers, rfl⟩
    exact
      ⟨rfl, ⟨numbers.bidPrice, rfl⟩, ⟨numbers.bidSize, rfl⟩,
        ⟨numbers.askPrice, rfl⟩, ⟨numbers.askSize, rfl⟩,
        ⟨numbers.timestamp, rfl⟩⟩

theorem invalidMarket_iff (update : MarketDataUpdate) :
    invalidMarket update = true ↔ NoMarket update := by
  simp [invalidMarket, NoMarket, or_assoc]

/-! ## Lines -/

/-- A result with a failing status, and the update as it was constructed. -/
def failure (status : ParseStatus) : ParseResult := { status := status }

section Cases

variable {line content : ByteString}
  (stripped : stripTrailingCarriageReturn line = content)
include stripped

theorem parse_of_empty (empty : content = []) :
    parseMarketDataLine line = failure .emptyInput := by
  simp only [parseMarketDataLine, stripped, empty, if_true, failure]

variable (filled : content ≠ [])
include filled

theorem parse_of_other (other : ¬ SixFields content) :
    parseMarketDataLine line = failure .wrongFieldCount := by
  by_cases commas : content.count 44 = 5
  · have unnamed : field content 1 = [] := by
      rw [field_one_eq_nil_iff commas]
      by_contra named
      exact other ⟨commas, named⟩
    simp only [parseMarketDataLine, stripped, if_neg filled,
      splitCsvLine_of_commas commas, unnamed, if_true, failure]
  · simp only [parseMarketDataLine, stripped, if_neg filled,
      splitCsvLine_of_other commas, failure]

variable (six : SixFields content)
include six

/-- With six fields the numbers decide, and then the market check. -/
theorem parse_of_six :
    parseMarketDataLine line =
      match
        parseUpdate (field content 1) (field content 2) (field content 3)
          (field content 4) (field content 5) (field content 6)
      with
      | none => failure .invalidNumber
      | some update =>
          if invalidMarket update then failure .invalidMarket
          else { status := .ok, update := update } := by
  have named : field content 1 ≠ [] := by
    rw [Ne, field_one_eq_nil_iff six.commas]
    exact six.named
  simp only [parseMarketDataLine, stripped, if_neg filled,
    splitCsvLine_of_commas six.commas, if_neg named]
  rfl

theorem parse_of_notNumbers (other : ¬ Numbers content) :
    parseMarketDataLine line = failure .invalidNumber := by
  rw [parse_of_six stripped filled six]
  split
  · rfl
  · rename_i update parsed
    have numbers := ((parseUpdate_fields_iff content update).mp parsed).1
    exact absurd numbers other

theorem parse_of_numbers (numbers : Numbers content) :
    parseMarketDataLine line =
      if invalidMarket (spelledUpdate content) then failure .invalidMarket
      else { status := .ok, update := spelledUpdate content } := by
  have parsed :=
    (parseUpdate_fields_iff content (spelledUpdate content)).mpr
      ⟨numbers, rfl⟩
  rw [parse_of_six stripped filled six, parsed]

end Cases

theorem classified_of_stripped {line content : ByteString}
    (stripped : stripTrailingCarriageReturn line = content) :
    Classified content (parseMarketDataLine line) := by
  by_cases empty : content = []
  · rw [parse_of_empty stripped empty]
    constructor <;> simp [failure, empty]
  by_cases six : SixFields content
  · by_cases numbers : Numbers content
    · rw [parse_of_numbers stripped empty six numbers]
      have market := invalidMarket_iff (spelledUpdate content)
      split_ifs with invalid
      · have no : NoMarket (spelledUpdate content) := market.mp invalid
        constructor <;> simp [failure, empty, six, numbers, no]
      · have sound : ¬ NoMarket (spelledUpdate content) := by
          intro no
          exact invalid (market.mpr no)
        constructor <;> simp [empty, six, numbers, sound]
    · rw [parse_of_notNumbers stripped empty six numbers]
      constructor <;> simp [failure, empty, six, numbers]
  · rw [parse_of_other stripped empty six]
    constructor <;> simp [failure, empty, six]

/--
Every line is given the status that the grammar calls for, with the update
that it spells if it is accepted and with the default update otherwise.
-/
theorem parser_classifies_every_line (line : ByteString) :
    ∃ content, HasContent line content ∧
      Classified content (parseMarketDataLine line) :=
  ⟨stripTrailingCarriageReturn line,
    hasContent_stripTrailingCarriageReturn line,
    classified_of_stripped rfl⟩

end Llgw.MarketDataGrammar
