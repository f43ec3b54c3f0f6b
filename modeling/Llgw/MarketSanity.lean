import Llgw.MarketDataParser

/-!
# What the parser accepts

An accepted line is a sane market if its prices are numbers.  The final check
of the parser is made of comparisons that refuse, and they refuse neither a
NaN nor, alone, an infinity; both can be spelled in a price field.  The result
says exactly which lines slip through.
-/

namespace Llgw.MarketSanity

open Llgw.Foundation
open Llgw.Foundation.FloatOrder
open Llgw.Messages
open Llgw.MarketDataParser

/-- A non-empty symbol, finite positive uncrossed prices, non-zero sizes. -/
structure Sane (update : MarketDataUpdate) : Prop where
  symbol : update.symbol ≠ []
  bidFinite : update.bidPrice.isFinite = true
  bidPositive : 0.0 < update.bidPrice
  askFinite : update.askPrice.isFinite = true
  askPositive : 0.0 < update.askPrice
  uncrossed : update.bidPrice ≤ update.askPrice
  bidSize : update.bidSize ≠ 0
  askSize : update.askSize ≠ 0

/-! ## Accepted lines -/

/-- The fields of a line, and the update that they spell. -/
structure Accepted (line : ByteString) (update : MarketDataUpdate)
    (bidPrice bidSize askPrice askSize timestamp : ByteString) : Prop where
  fields :
    splitCsvLine (stripTrailingCarriageReturn line) =
      some
        [update.symbol, bidPrice, bidSize, askPrice, askSize, timestamp]
  symbol : update.symbol ≠ []
  bidPrice : parseDouble bidPrice = some update.bidPrice
  bidSize : parseUint32 bidSize = some update.bidSize
  askPrice : parseDouble askPrice = some update.askPrice
  askSize : parseUint32 askSize = some update.askSize
  timestamp : parseUint64 timestamp = some update.exchangeTsNs
  valid : invalidMarket update = false

theorem parseUpdate_eq_some_iff
    {symbol bidPrice bidSize askPrice askSize timestamp : ByteString}
    {update : MarketDataUpdate} :
    parseUpdate symbol bidPrice bidSize askPrice askSize timestamp =
        some update ↔
      symbol = update.symbol ∧
        parseDouble bidPrice = some update.bidPrice ∧
        parseUint32 bidSize = some update.bidSize ∧
        parseDouble askPrice = some update.askPrice ∧
        parseUint32 askSize = some update.askSize ∧
        parseUint64 timestamp = some update.exchangeTsNs := by
  unfold parseUpdate
  simp only [Option.bind_eq_bind, Option.bind_eq_some_iff,
    Option.some.injEq]
  constructor
  · rintro ⟨bid, hasBid, bidQuantity, hasBidSize, ask, hasAsk,
      askQuantity, hasAskSize, time, hasTime, rfl⟩
    exact ⟨rfl, hasBid, hasBidSize, hasAsk, hasAskSize, hasTime⟩
  · rintro ⟨rfl, hasBid, hasBidSize, hasAsk, hasAskSize, hasTime⟩
    exact
      ⟨_, hasBid, _, hasBidSize, _, hasAsk, _, hasAskSize, _, hasTime, rfl⟩

theorem parse_of_accepted
    {line bidPrice bidSize askPrice askSize timestamp : ByteString}
    {update : MarketDataUpdate}
    (accepted :
      Accepted line update bidPrice bidSize askPrice askSize timestamp) :
    parseMarketDataLine line = { status := .ok, update := update } := by
  have parsed :
      parseUpdate update.symbol bidPrice bidSize askPrice askSize
        timestamp = some update :=
    parseUpdate_eq_some_iff.mpr
      ⟨rfl, accepted.bidPrice, accepted.bidSize, accepted.askPrice,
        accepted.askSize, accepted.timestamp⟩
  have filled : stripTrailingCarriageReturn line ≠ [] := by
    intro empty
    have fields := accepted.fields
    rw [empty] at fields
    cases fields
  simp only [parseMarketDataLine, if_neg filled, accepted.fields,
    if_neg accepted.symbol, parsed, accepted.valid, Bool.false_eq_true,
    if_false]

/-- An accepted line has six fields that spell its update. -/
theorem accepted_of_parse {line : ByteString}
    (ok : (parseMarketDataLine line).status = .ok) :
    ∃ bidPrice bidSize askPrice askSize timestamp,
      Accepted line (parseMarketDataLine line).update bidPrice bidSize
        askPrice askSize timestamp := by
  generalize result : parseMarketDataLine line = parsed at ok ⊢
  unfold parseMarketDataLine at result
  dsimp only at result
  split_ifs at result with empty
  · subst result
    contradiction
  · split at result
    · rename_i symbol bidPrice bidSize askPrice askSize timestamp fields
      split_ifs at result with unnamed
      · subst result
        contradiction
      · split at result
        · subst result
          contradiction
        · rename_i update numbers
          split_ifs at result with invalid
          · subst result
            contradiction
          · subst result
            obtain ⟨rfl, hasBid, hasBidSize, hasAsk, hasAskSize, hasTime⟩ :=
              parseUpdate_eq_some_iff.mp numbers
            exact
              ⟨bidPrice, bidSize, askPrice, askSize, timestamp, fields,
                unnamed, hasBid, hasBidSize, hasAsk, hasAskSize, hasTime,
                by simpa using invalid⟩
    · subst result
      contradiction

/-! ## Spelled prices -/

/-- What a whole field spells. -/
def spellingOf (field : ByteString) : Option Spelling :=
  match scanDouble field with
  | some (spelling, []) => some spelling
  | _ => none

/-- A field is a price exactly if it spells a number within range. -/
theorem parseDouble_eq_some_iff {field : ByteString} {price : Float} :
    parseDouble field = some price ↔
      ∃ spelling, spellingOf field = some spelling ∧
        spelling.outOfRange = false ∧ spelling.value = price := by
  unfold parseDouble parseField fromCharsDouble spellingOf
  by_cases empty : field = []
  · have nothing : scanDouble [] = none := rfl
    simp [empty, nothing]
  · rw [if_neg empty]
    rcases scanDouble field with _ | ⟨spelling, _ | ⟨byte, rest⟩⟩
    · simp
    · cases range : spelling.outOfRange <;> simp [range]
    · cases range : spelling.outOfRange <;> simp [range]

/-- An infinity or a NaN. -/
def special : Spelling → Bool
  | .decimal _ _ _ => false
  | _ => true

theorem isFinite_of_special {spelling : Spelling}
    (unusual : special spelling = true) :
    spelling.value.isFinite = false := by
  cases spelling with
  | infinity negative => cases negative <;> decide
  | notANumber => decide
  | decimal _ _ _ => contradiction

theorem isFinite_of_decimal {spelling : Spelling}
    (usual : special spelling = false)
    (inRange : spelling.outOfRange = false) :
    spelling.value.isFinite = true := by
  cases spelling with
  | infinity _ => contradiction
  | notANumber => contradiction
  | decimal negative mantissa exponent =>
      simp only [Spelling.outOfRange, Bool.or_eq_false_iff,
        Bool.not_eq_false'] at inRange
      exact inRange.1

/-! ## Prices that slip through -/

/-- A price that is neither out of range nor seen not to be positive. -/
def Passes (spelling : Spelling) : Prop :=
  spelling.outOfRange = false ∧ ¬ spelling.value ≤ 0.0

/--
Two prices that pass, at least one of them an infinity or a NaN, except for an
infinite bid against a finite ask, which counts as crossed.
-/
structure Slips (bid ask : Spelling) : Prop where
  unusual : special bid = true ∨ special ask = true
  bidPasses : Passes bid
  askPasses : Passes ask
  notCrossed : ¬ (bid = .infinity false ∧ special ask = false)

/-- Minus infinity is the only unusual price that is seen not to be positive. -/
theorem Passes.unusual {spelling : Spelling} (passes : Passes spelling)
    (unusual : special spelling = true) :
    spelling = .infinity false ∨ spelling = .notANumber := by
  cases spelling with
  | infinity negative =>
      cases negative with
      | false => exact Or.inl rfl
      | true => exact absurd (by decide) passes.2
  | notANumber => exact Or.inr rfl
  | decimal _ _ _ => contradiction

/-- Prices of which one is NaN are never seen to cross. -/
theorem not_crossed_of_notANumber {bid ask : Spelling}
    (number : bid = .notANumber ∨ ask = .notANumber) :
    ¬ ask.value < bid.value := by
  apply not_lt_of_isNaN
  rcases number with rfl | rfl
  · exact Or.inr (by decide)
  · exact Or.inl (by decide)

/-- Among unusual prices that pass, exactly the exception is crossed. -/
theorem crossed_iff {bid ask : Spelling}
    (unusual : special bid = true ∨ special ask = true)
    (bidPasses : Passes bid) (askPasses : Passes ask) :
    ask.value < bid.value ↔
      bid = .infinity false ∧ special ask = false := by
  cases askKind : special ask with
  | true =>
      have notCrossed : ¬ ask.value < bid.value := by
        rcases askPasses.unusual askKind with rfl | rfl
        · exact not_infinity_lt bid.value
        · exact not_crossed_of_notANumber (Or.inr rfl)
      exact iff_of_false notCrossed (fun exception => nomatch exception.2)
  | false =>
      have bidKind : special bid = true := by
        rw [askKind] at unusual
        exact unusual.resolve_right Bool.false_ne_true
      rcases bidPasses.unusual bidKind with rfl | rfl
      · have finite := isFinite_of_decimal askKind askPasses.1
        exact iff_of_true (lt_infinity finite) ⟨rfl, rfl⟩
      · refine iff_of_false (not_crossed_of_notANumber (Or.inl rfl)) ?_
        rintro ⟨same, _⟩
        cases same

/-- A size field that spells a number other than zero. -/
def SizeField (field : ByteString) : Prop :=
  ∃ size, parseUint32 field = some size ∧ size ≠ 0

/--
A line in which nothing is wrong but the prices, and they slip through: six
fields, a symbol, two sizes, a time stamp, and two such prices.
-/
def SlipsThrough (line : ByteString) : Prop :=
  ∃ symbol bidPrice bidSize askPrice askSize timestamp,
    splitCsvLine (stripTrailingCarriageReturn line) =
        some [symbol, bidPrice, bidSize, askPrice, askSize, timestamp] ∧
      symbol ≠ [] ∧ SizeField bidSize ∧ SizeField askSize ∧
      (∃ time, parseUint64 timestamp = some time) ∧
      ∃ bid ask, spellingOf bidPrice = some bid ∧
        spellingOf askPrice = some ask ∧ Slips bid ask

theorem invalidMarket_eq_false_iff (update : MarketDataUpdate) :
    invalidMarket update = false ↔
      ¬ update.bidPrice ≤ 0.0 ∧ ¬ update.askPrice ≤ 0.0 ∧
        ¬ update.askPrice < update.bidPrice ∧ update.bidSize ≠ 0 ∧
        update.askSize ≠ 0 := by
  simp [invalidMarket, and_assoc]

/-- A line that slips through is accepted with a price that is not finite. -/
theorem accepted_of_slipsThrough {line : ByteString}
    (slips : SlipsThrough line) :
    ∃ update, parseMarketDataLine line =
        { status := .ok, update := update } ∧
      (update.bidPrice.isFinite = false ∨
        update.askPrice.isFinite = false) := by
  obtain ⟨symbol, bidPrice, bidSize, askPrice, askSize, timestamp, fields,
    named, ⟨bidQuantity, hasBidSize, bidSome⟩,
    ⟨askQuantity, hasAskSize, askSome⟩, ⟨time, hasTime⟩, bid, ask,
    bidSpelled, askSpelled, slip⟩ := slips
  let update : MarketDataUpdate :=
    { symbol := symbol
      bidPrice := bid.value
      bidSize := bidQuantity
      askPrice := ask.value
      askSize := askQuantity
      exchangeTsNs := time }
  have notCrossed : ¬ ask.value < bid.value := by
    rw [crossed_iff slip.unusual slip.bidPasses slip.askPasses]
    exact slip.notCrossed
  have accepted :
      Accepted line update bidPrice bidSize askPrice askSize timestamp :=
    { fields := fields
      symbol := named
      bidPrice :=
        parseDouble_eq_some_iff.mpr ⟨bid, bidSpelled, slip.bidPasses.1, rfl⟩
      bidSize := hasBidSize
      askPrice :=
        parseDouble_eq_some_iff.mpr ⟨ask, askSpelled, slip.askPasses.1, rfl⟩
      askSize := hasAskSize
      timestamp := hasTime
      valid :=
        (invalidMarket_eq_false_iff update).mpr
          ⟨slip.bidPasses.2, slip.askPasses.2, notCrossed, bidSome, askSome⟩ }
  exact
    ⟨update, parse_of_accepted accepted,
      slip.unusual.imp isFinite_of_special isFinite_of_special⟩

/-- An accepted line is sane or one that slips through. -/
theorem sane_or_slipsThrough {line : ByteString}
    (ok : (parseMarketDataLine line).status = .ok) :
    Sane (parseMarketDataLine line).update ∨ SlipsThrough line := by
  obtain ⟨bidPrice, bidSize, askPrice, askSize, timestamp, accepted⟩ :=
    accepted_of_parse ok
  generalize (parseMarketDataLine line).update = update at accepted ⊢
  obtain ⟨bid, bidSpelled, bidInRange, bidValue⟩ :=
    parseDouble_eq_some_iff.mp accepted.bidPrice
  obtain ⟨ask, askSpelled, askInRange, askValue⟩ :=
    parseDouble_eq_some_iff.mp accepted.askPrice
  obtain ⟨bidTest, askTest, crossTest, bidSome, askSome⟩ :=
    (invalidMarket_eq_false_iff update).mp accepted.valid
  by_cases unusual : special bid = true ∨ special ask = true
  · refine Or.inr ⟨_, _, _, _, _, _, accepted.fields, accepted.symbol,
      ⟨_, accepted.bidSize, bidSome⟩, ⟨_, accepted.askSize, askSome⟩,
      ⟨_, accepted.timestamp⟩, bid, ask, bidSpelled, askSpelled, ?_⟩
    have bidPasses : Passes bid := ⟨bidInRange, bidValue ▸ bidTest⟩
    have askPasses : Passes ask := ⟨askInRange, askValue ▸ askTest⟩
    refine ⟨unusual, bidPasses, askPasses, fun exception => crossTest ?_⟩
    rw [← bidValue, ← askValue]
    exact (crossed_iff unusual bidPasses askPasses).mpr exception
  · rcases not_or.mp unusual with ⟨bidUsual, askUsual⟩
    have bidFinite : update.bidPrice.isFinite = true := by
      rw [← bidValue]
      exact isFinite_of_decimal (by simpa using bidUsual) bidInRange
    have askFinite : update.askPrice.isFinite = true := by
      rw [← askValue]
      exact isFinite_of_decimal (by simpa using askUsual) askInRange
    have bidNumber := not_isNaN_of_isFinite bidFinite
    have askNumber := not_isNaN_of_isFinite askFinite
    have zeroNumber : ¬ (0.0 : Float).isNaN = true := by decide
    exact Or.inl
      { symbol := accepted.symbol
        bidFinite := bidFinite
        bidPositive := lt_of_not_le zeroNumber bidNumber bidTest
        askFinite := askFinite
        askPositive := lt_of_not_le zeroNumber askNumber askTest
        uncrossed := le_of_not_lt bidNumber askNumber crossTest
        bidSize := bidSome
        askSize := askSome }

/--
If a line is accepted its update is sane, exactly unless the line slips
through the final check.
-/
theorem accepted_sane_iff (line : ByteString) :
    ((parseMarketDataLine line).status = .ok →
        Sane (parseMarketDataLine line).update) ↔
      ¬ SlipsThrough line := by
  constructor
  · intro promise slips
    rcases accepted_of_slipsThrough slips with ⟨update, result, notFinite⟩
    rw [result] at promise
    have sane := promise rfl
    rcases notFinite with bid | ask
    · exact absurd (sane.bidFinite.symm.trans bid) (by decide)
    · exact absurd (sane.askFinite.symm.trans ask) (by decide)
  · intro safe ok
    exact (sane_or_slipsThrough ok).resolve_right safe

/-- A line whose two prices are spelled `nan`. -/
def nanLine : ByteString := text "A,nan,1,nan,1,0"

/-- Such a line is accepted. -/
theorem nan_line_accepted :
    ¬ ∀ line, (parseMarketDataLine line).status = .ok →
      Sane (parseMarketDataLine line).update := by
  intro claim
  have sane := claim nanLine (by decide)
  exact absurd sane.bidFinite (by decide)

end Llgw.MarketSanity
