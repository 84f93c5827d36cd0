/-!
Decimal numbers, and which of them have a finite nearest neighbour among the
binary numbers of sixty-four bits.
-/

namespace LiteralFlow

/-- The number `mantissa * 10 ^ exponent`. -/
structure Decimal where
  mantissa : Nat
  exponent : Int
deriving DecidableEq, Repr

namespace Decimal

/-- The least number that rounds past the greatest binary number of sixty-four
bits: half a unit of the last place above it. -/
def overflowThreshold : Nat := Nat.pow 2 1024 - Nat.pow 2 970

/-- Whether a number rounds to a finite one. A number below one is decided
without the power of ten, and so is one with too great an exponent. -/
def isFinite (decimal : Decimal) : Bool :=
  if decimal.mantissa = 0 then true
  else
    match decimal.exponent with
    | .ofNat exponent =>
        exponent ≤ 308 && decimal.mantissa * Nat.pow 10 exponent < overflowThreshold
    | .negSucc exponent =>
        decimal.mantissa.log2 < 3 * (exponent + 1) ||
          decimal.mantissa < overflowThreshold * Nat.pow 10 (exponent + 1)

end Decimal

end LiteralFlow
