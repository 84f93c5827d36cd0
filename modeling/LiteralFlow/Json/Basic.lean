import LiteralFlow.Binary
import LiteralFlow.Text.Digits

/-!
JSON documents. Members of an object keep their order, and a key can occur more
than once.
-/

namespace LiteralFlow

/-- A number as it is written: the digits behind the point are kept, and the
exponent is none when it is not written. -/
structure JsonNumber where
  negative : Bool
  whole : Nat
  fraction : List Char
  exponent : Option Int
deriving DecidableEq, Repr

namespace JsonNumber

def ofNat (n : Nat) : JsonNumber := ⟨false, n, [], none⟩

def nat? (number : JsonNumber) : Option Nat :=
  if number.negative then none
  else
    match number.fraction, number.exponent with
    | [], none => some number.whole
    | _, _ => none

def wordLimit : Nat := 0x10000000000000000

/-- The word that `digits` continue when `value` stands before them, and the
digits from the first one on that does not fit. -/
def continueWord : Nat → List Char → Nat × List Char
  | value, [] => (value, [])
  | value, c :: digits =>
      let next := 10 * value + (Text.digitValue? 10 c).getD 0
      if next < wordLimit then continueWord next digits else (value, c :: digits)

/-- A word and a power of ten that stand for a number. Digits that do not fit the
word are left out, those before the point and those behind it apart. -/
def scaled (number : JsonNumber) : Nat × Int :=
  let (whole, omitted) := continueWord 0 (Nat.toDigits 10 number.whole)
  let (significand, unread) := continueWord whole number.fraction
  (significand, number.exponent.getD 0 + omitted.length + unread.length - number.fraction.length)

/-- Whether a number is finite in binary form, which is the product of its word
and its power of ten. A negative power divides, and the greatest one is 308. -/
def isFinite (number : JsonNumber) : Bool :=
  match number.scaled with
  | (0, _) => true
  | (_, .negSucc _) => true
  | (significand, .ofNat exponent) =>
      exponent ≤ 308 && Binary.isFiniteProduct significand (Nat.pow 10 exponent)

end JsonNumber

/-- A JSON value. A string is none when an escape in it is half of a surrogate
pair, so that it is well formed but no Unicode text. -/
inductive Json where
  | null
  | bool (value : Bool)
  | number (value : JsonNumber)
  | string (value : Option String)
  | array (items : List Json)
  | object (members : List (Option String × Json))
deriving Repr

namespace Json

def text (value : String) : Json := .string (some value)

def nat (n : Nat) : Json := .number (.ofNat n)

def record (members : List (String × Json)) : Json :=
  .object (members.map fun (key, value) => (some key, value))

def ofOption {α : Type} (encode : α → Json) : Option α → Json
  | none => null
  | some value => encode value

end Json

end LiteralFlow
