/-!
Binary numbers of sixty-four bits as far as whole numbers need them: fifty-three
significant bits, and a bound above which a result is infinite.
-/

namespace LiteralFlow.Binary

/-- The nearest number with fifty-three significant bits; of two that are equally
near, the one whose last bit is zero. -/
def round (n : Nat) : Nat :=
  let unit := Nat.pow 2 (n.log2 - 52)
  let quotient := n / unit
  let remainder := n % unit
  if unit < 2 * remainder || (unit = 2 * remainder && quotient % 2 = 1) then
    (quotient + 1) * unit
  else quotient * unit

def overflow : Nat := Nat.pow 2 1024

/-- Whether the product of two numbers is finite when the numbers and the product
are rounded in turn. -/
def isFiniteProduct (x y : Nat) : Bool := round (round x * round y) < overflow

end LiteralFlow.Binary
