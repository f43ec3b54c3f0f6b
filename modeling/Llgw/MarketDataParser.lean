import Llgw.Foundation.FloatOrder
import Llgw.Messages

/-!
# The market data parser

`ParseMarketDataLine` of `market_data_parser.cpp` over arbitrary bytes.  The
overloads of `std::from_chars` that it calls are defined here after their
documentation: they consume the longest prefix of the expected form, take no
leading white space and no leading plus sign, and report a number that the
type cannot represent as out of range.
-/

namespace Llgw.MarketDataParser

open Llgw.Foundation
open Llgw.Messages

/-! ## `std::from_chars` -/

/-- The error codes that `std::from_chars` may return. -/
inductive Errc where
  | none
  | invalidArgument
  | resultOutOfRange
deriving DecidableEq

/-- What is left of the input, the error code, and the value if it is none. -/
structure FromCharsResult (Value : Type) where
  ptr : ByteString
  ec : Errc
  value : Value

/-- `'0'` to `'9'`. -/
def isDigit (byte : UInt8) : Bool :=
  48 ≤ byte && byte ≤ 57

/-- The number that decimal digits spell. -/
def digitsValue (digits : ByteString) : Nat :=
  digits.foldl (fun number byte => 10 * number + (byte.toNat - 48)) 0

/-- The overloads for unsigned integers, with base ten. -/
def fromCharsUnsigned {Value : Type} (size : Nat) (ofNat : Nat → Value)
    (input : ByteString) : FromCharsResult Value :=
  let digits := input.takeWhile isDigit
  let ptr := input.dropWhile isDigit
  if digits = [] then
    { ptr := input, ec := .invalidArgument, value := ofNat 0 }
  else if digitsValue digits < size then
    { ptr := ptr, ec := .none, value := ofNat (digitsValue digits) }
  else { ptr := ptr, ec := .resultOutOfRange, value := ofNat 0 }

/-- What the characters of a floating-point number spell. -/
inductive Spelling where
  | infinity (negative : Bool)
  | notANumber
  /-- The number `± mantissa * 10 ^ exponent`. -/
  | decimal (negative : Bool) (mantissa : Nat) (exponent : Int)
deriving DecidableEq

/-- An ASCII letter in lower case, and any other byte as it is. -/
def lowerCase (byte : UInt8) : UInt8 :=
  if 65 ≤ byte && byte ≤ 90 then byte + 32 else byte

/-- What follows a word, which may be in either case. -/
def skipWord : ByteString → ByteString → Option ByteString
  | [], input => some input
  | letter :: word, byte :: input =>
      if lowerCase byte = letter then skipWord word input else none
  | _ :: _, [] => none

/-- A digit, a letter or an underscore. -/
def isPayload (byte : UInt8) : Bool :=
  isDigit byte || (97 ≤ lowerCase byte && lowerCase byte ≤ 122) ||
    byte == 95

/-- What follows `nan`, without a payload in parentheses if there is one. -/
def skipPayload (input : ByteString) : ByteString :=
  match input with
  | 40 :: inside =>
      match inside.dropWhile isPayload with
      | 41 :: ptr => ptr
      | _ => input
  | _ => input

/-- An optional exponent; an `e` without digits is not one. -/
def scanExponent (input : ByteString) : Int × ByteString :=
  match input with
  | [] => (0, input)
  | byte :: after =>
      if lowerCase byte = 101 then
        let negative := after.head? = some 45
        let signed := negative ∨ after.head? = some 43
        let digits := if signed then after.tail else after
        if digits.takeWhile isDigit = [] then (0, input)
        else
          let magnitude : Int := digitsValue (digits.takeWhile isDigit)
          (if negative then -magnitude else magnitude,
            digits.dropWhile isDigit)
      else (0, input)

/-- Digits with an optional point and an optional exponent. -/
def scanDecimal (negative : Bool) (input : ByteString) :
    Option (Spelling × ByteString) :=
  let whole := input.takeWhile isDigit
  let afterWhole := input.dropWhile isDigit
  let point := afterWhole.head? = some 46
  let fraction :=
    if point then afterWhole.tail.takeWhile isDigit else []
  let afterFraction :=
    if point then afterWhole.tail.dropWhile isDigit else afterWhole
  if whole ++ fraction = [] then none
  else
    let scanned := scanExponent afterFraction
    some
      (.decimal negative (digitsValue (whole ++ fraction))
          (scanned.1 - fraction.length),
        scanned.2)

/-- The longest prefix that spells a floating-point number. -/
def scanDouble (input : ByteString) : Option (Spelling × ByteString) :=
  let negative := input.head? == some 45
  let unsigned := if negative then input.tail else input
  match skipWord (text "infinity") unsigned with
  | some ptr => some (.infinity negative, ptr)
  | none =>
      match skipWord (text "inf") unsigned with
      | some ptr => some (.infinity negative, ptr)
      | none =>
          match skipWord (text "nan") unsigned with
          | some ptr => some (.notANumber, skipPayload ptr)
          | none => scanDecimal negative unsigned

/-- A quiet NaN. -/
def doubleNaN : Float := .ofBits 0x7FF8000000000000

namespace Spelling

/-- The nearest double. -/
def value : Spelling → Float
  | .infinity negative =>
      if negative then -FloatOrder.infinity else FloatOrder.infinity
  | .notANumber => doubleNaN
  | .decimal negative mantissa exponent =>
      let magnitude :=
        Float.ofScientific mantissa (exponent < 0) exponent.natAbs
      if negative then -magnitude else magnitude

/-- A decimal number that overflows, or that is not zero but rounds to it. -/
def outOfRange : Spelling → Bool
  | .infinity _ => false
  | .notANumber => false
  | .decimal negative mantissa exponent =>
      let number := (Spelling.decimal negative mantissa exponent).value
      !number.isFinite || (mantissa != 0 && number == 0.0)

end Spelling

/-- The overload for `double`, with the general format. -/
def fromCharsDouble (input : ByteString) : FromCharsResult Float :=
  match scanDouble input with
  | none => { ptr := input, ec := .invalidArgument, value := 0.0 }
  | some (spelling, ptr) =>
      if spelling.outOfRange then
        { ptr := ptr, ec := .resultOutOfRange, value := 0.0 }
      else { ptr := ptr, ec := .none, value := spelling.value }

/-! ## Fields -/

/-- A field is a number when `std::from_chars` consumes all of it. -/
def parseField {Value : Type}
    (fromChars : ByteString → FromCharsResult Value) (value : ByteString) :
    Option Value :=
  if value = [] then none
  else
    let result := fromChars value
    if result.ec = .none ∧ result.ptr = [] then some result.value else none

/-- `ParseDouble`. -/
def parseDouble (value : ByteString) : Option Float :=
  parseField fromCharsDouble value

/-- `ParseUint32`. -/
def parseUint32 (value : ByteString) : Option UInt32 :=
  parseField (fromCharsUnsigned UInt32.size UInt32.ofNat) value

/-- `ParseUint64`. -/
def parseUint64 (value : ByteString) : Option UInt64 :=
  parseField (fromCharsUnsigned UInt64.size UInt64.ofNat) value

/-- `StripTrailingCarriageReturn`. -/
def stripTrailingCarriageReturn (line : ByteString) : ByteString :=
  if line.getLast? = some 13 then line.dropLast else line

/-- `kExpectedFieldCount`. -/
def kExpectedFieldCount : Nat := 6

/--
The loop of `SplitCsvLine` with this many fields still to fill.  It fails on
a field too many, and at the end of the line unless all fields are filled.
-/
def splitLoop : Nat → ByteString → Option (List ByteString)
  | 0, _ => none
  | missing + 1, line =>
      let field := line.takeWhile (· ≠ 44)
      match line.dropWhile (· ≠ 44) with
      | [] => if missing = 0 then some [field] else none
      | _ :: after => (splitLoop missing after).map (field :: ·)

/-- `SplitCsvLine`. -/
def splitCsvLine (line : ByteString) : Option (List ByteString) :=
  splitLoop kExpectedFieldCount line

/-! ## Lines -/

inductive ParseStatus where
  | ok
  | emptyInput
  | wrongFieldCount
  | invalidNumber
  | invalidMarket
deriving DecidableEq, Repr

structure ParseResult where
  status : ParseStatus := .invalidNumber
  update : MarketDataUpdate := {}
deriving DecidableEq

/-- The final check of an update. -/
def invalidMarket (update : MarketDataUpdate) : Bool :=
  update.bidPrice ≤ 0.0 || update.askPrice ≤ 0.0 ||
    update.askPrice < update.bidPrice || update.bidSize == 0 ||
    update.askSize == 0

/-- The numbers of a line, in the order in which they are parsed. -/
def parseUpdate (symbol bidPrice bidSize askPrice askSize timestamp :
    ByteString) : Option MarketDataUpdate := do
  let bidPrice ← parseDouble bidPrice
  let bidSize ← parseUint32 bidSize
  let askPrice ← parseDouble askPrice
  let askSize ← parseUint32 askSize
  let exchangeTsNs ← parseUint64 timestamp
  some
    { symbol := symbol
      bidPrice := bidPrice
      bidSize := bidSize
      askPrice := askPrice
      askSize := askSize
      exchangeTsNs := exchangeTsNs }

/-- `ParseMarketDataLine`. -/
def parseMarketDataLine (line : ByteString) : ParseResult :=
  let line := stripTrailingCarriageReturn line
  if line = [] then { status := .emptyInput }
  else
    match splitCsvLine line with
    | some [symbol, bidPrice, bidSize, askPrice, askSize, timestamp] =>
        if symbol = [] then { status := .wrongFieldCount }
        else
          match
            parseUpdate symbol bidPrice bidSize askPrice askSize
              timestamp
          with
          | none => { status := .invalidNumber }
          | some update =>
              if invalidMarket update then { status := .invalidMarket }
              else { status := .ok, update := update }
    | _ => { status := .wrongFieldCount }

end Llgw.MarketDataParser
