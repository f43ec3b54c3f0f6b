import Mathlib.Data.List.Basic

/-!
# Messages and fixed symbols

The plain data of `messages.hpp` and `fixed_symbol.hpp`.  A `double` is
Lean's binary64 `Float`, fixed-width integers are `UInt32` and `UInt64`, and
the bytes of a `std::string` or `std::string_view` are a list of `UInt8`.
-/

namespace Llgw.Messages

/-- The content of a byte string or of a view into one. -/
abbrev ByteString := List UInt8

/-- The bytes of an ASCII literal. -/
def text (literal : String) : ByteString :=
  literal.toList.map Char.toUInt8

/-! ## Fixed symbols -/

/-- `FixedSymbol::kMaxLength`. -/
def kMaxLength : Nat := 16

/--
An owned symbol of at most `kMaxLength` bytes.  The zero padding behind the
length is not observable, so a symbol is its view.
-/
structure FixedSymbol where
  view : ByteString
  size_le : view.length ≤ kMaxLength
deriving DecidableEq

namespace FixedSymbol

/-- The default symbol has length zero. -/
def none : FixedSymbol := ⟨[], Nat.zero_le _⟩

instance : Inhabited FixedSymbol := ⟨none⟩

/--
`FixedSymbol::Assign`: an empty or over-long value clears the symbol and is
refused.
-/
def assign (value : ByteString) : Bool × FixedSymbol :=
  if fits : value.length ≤ kMaxLength then
    if value = [] then (false, none) else (true, ⟨value, fits⟩)
  else (false, none)

/-- The converting constructor, which ignores the result of `Assign`. -/
def ofView (value : ByteString) : FixedSymbol :=
  (assign value).2

/-- `FixedSymbol::empty`. -/
def empty (symbol : FixedSymbol) : Bool :=
  symbol.view.length == 0

@[simp]
theorem empty_iff (symbol : FixedSymbol) :
    symbol.empty = true ↔ symbol.view = [] := by
  simp [empty]

@[simp]
theorem empty_eq_false_iff (symbol : FixedSymbol) :
    symbol.empty = false ↔ symbol.view ≠ [] := by
  simp [empty]

end FixedSymbol

/-! ## Orders, market data and responses -/

inductive Side where
  | buy
  | sell
deriving DecidableEq, Repr

structure MarketDataUpdate where
  symbol : ByteString := []
  bidPrice : Float := 0.0
  bidSize : UInt32 := 0
  askPrice : Float := 0.0
  askSize : UInt32 := 0
  exchangeTsNs : UInt64 := 0
deriving DecidableEq

structure OrderRequest where
  sequenceId : UInt64 := 0
  symbol : FixedSymbol := default
  side : Side := .buy
  price : Float := 0.0
  quantity : UInt32 := 0
deriving DecidableEq

instance : Inhabited OrderRequest := ⟨{}⟩

inductive OrderRejectReason where
  | none
  | invalidSymbol
  | invalidPrice
  | invalidQuantity
  | duplicateSequence
deriving DecidableEq, Repr

inductive CancelRejectReason where
  | none
  | unknownOrder
  | invalidState
deriving DecidableEq, Repr

inductive AmendRejectReason where
  | none
  | unknownOrder
  | invalidPrice
  | invalidQuantity
  | invalidState
deriving DecidableEq, Repr

structure CancelRequest where
  sequenceId : UInt64 := 0
deriving DecidableEq

structure AmendRequest where
  sequenceId : UInt64 := 0
  newPrice : Float := 0.0
  newQuantity : UInt32 := 0
deriving DecidableEq

structure OrderResponse where
  sequenceId : UInt64 := 0
  accepted : Bool := false
  rejectReason : OrderRejectReason := .none
deriving DecidableEq

structure CancelResponse where
  sequenceId : UInt64 := 0
  accepted : Bool := false
  rejectReason : CancelRejectReason := .none
deriving DecidableEq

structure AmendResponse where
  sequenceId : UInt64 := 0
  accepted : Bool := false
  rejectReason : AmendRejectReason := .none
deriving DecidableEq

end Llgw.Messages
