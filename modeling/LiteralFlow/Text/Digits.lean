/-!
Numerals in a radix of at most thirty-six, with ASCII digits and letters of
either case.
-/

namespace LiteralFlow.Text

def digitValue? (radix : Nat) (c : Char) : Option Nat :=
  let value :=
    if '0' ≤ c ∧ c ≤ '9' then c.toNat - '0'.toNat
    else if 'a' ≤ c ∧ c ≤ 'z' then c.toNat - 'a'.toNat + 10
    else if 'A' ≤ c ∧ c ≤ 'Z' then c.toNat - 'A'.toNat + 10
    else radix
  if value < radix then some value else none

/-- The number that `digits` continue when `value` stands before them. -/
def continueNumeral? (radix : Nat) : Nat → List Char → Option Nat
  | value, [] => some value
  | value, c :: digits => do
      let digit ← digitValue? radix c
      continueNumeral? radix (radix * value + digit) digits

def readNumeral? (radix : Nat) : List Char → Option Nat
  | [] => none
  | c :: digits => continueNumeral? radix 0 (c :: digits)

/-- The value of the first `width` characters, which all have to be digits, and
what follows them. -/
def takeNumeral? (radix width : Nat) (text : List Char) : Option (Nat × List Char) :=
  let digits := text.take width
  if digits.length = width then
    (continueNumeral? radix 0 digits).map fun value => (value, text.drop width)
  else none

end LiteralFlow.Text
