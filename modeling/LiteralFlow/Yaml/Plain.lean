import LiteralFlow.Decimal
import LiteralFlow.Text.Digits

/-!
What a plain scalar stands for when it is not text: null, a truth value, an
integer or a floating-point number.
-/

namespace LiteralFlow.Yaml.Plain

def isNull (text : List Char) : Bool :=
  String.ofList text ∈ ["", "~", "null", "Null", "NULL"]

def isBool (text : List Char) : Bool :=
  String.ofList text ∈ ["true", "True", "TRUE", "false", "False", "FALSE"]

def dropSign : List Char → List Char
  | '+' :: text => text
  | '-' :: text => text
  | text => text

/-- Whether a text is a zero followed by further digits, which is no number. -/
def isZeroPadded (text : List Char) : Bool :=
  match dropSign text with
  | '0' :: c :: digits => (c :: digits).all Char.isDigit
  | _ => false

def magnitude? : List Char → Option Nat
  | '0' :: 'x' :: digits => Text.readNumeral? 16 digits
  | '0' :: 'o' :: digits => Text.readNumeral? 8 digits
  | '0' :: 'b' :: digits => Text.readNumeral? 2 digits
  | digits => if isZeroPadded digits then none else Text.readNumeral? 10 digits

def natural? : List Char → Option Nat
  | '+' :: text => magnitude? text
  | text => magnitude? text

def integer? : List Char → Option Int
  | '-' :: text => (magnitude? text).map fun n => -(n : Int)
  | text => (natural? text).map fun n => (n : Int)

def natBelow? (limit : Nat) (text : List Char) : Option Nat := do
  let value ← natural? text
  if value < limit then some value else none

/-- Whether a text is an integer of at most one hundred and twenty-eight bits. -/
def isInteger (text : List Char) : Bool :=
  match integer? text with
  | some value => -0x80000000000000000000000000000000 ≤ value &&
      value < 0x100000000000000000000000000000000
  | none => false

def exponent? : List Char → Option Int
  | [] => some 0
  | mark :: text =>
      if mark = 'e' ∨ mark = 'E' then
        match text with
        | '-' :: digits => (Text.readNumeral? 10 digits).map fun n => -(n : Int)
        | '+' :: digits => (Text.readNumeral? 10 digits).map fun n => (n : Int)
        | digits => (Text.readNumeral? 10 digits).map fun n => (n : Int)
      else none

/-- The value of a decimal number without sign: digits with an optional point,
at least one of them, and an optional exponent. -/
def decimal? (text : List Char) : Option Decimal := do
  let whole := text.takeWhile Char.isDigit
  let rest := text.dropWhile Char.isDigit
  let tail := if rest.head? = some '.' then rest.tail else []
  let fraction := tail.takeWhile Char.isDigit
  let rest := if rest.head? = some '.' then tail.dropWhile Char.isDigit else rest
  let mantissa ← Text.readNumeral? 10 (whole ++ fraction)
  let exponent ← exponent? rest
  some ⟨mantissa, exponent - fraction.length⟩

/-- Whether a text is a floating-point number. A decimal number too great for
sixty-four bits is none. -/
def isFloat (text : List Char) : Bool :=
  String.ofList text ∈ [".nan", ".NaN", ".NAN"] ||
    String.ofList (dropSign text) ∈ [".inf", ".Inf", ".INF"] ||
      ((decimal? (dropSign text)).map Decimal.isFinite).getD false

/-- Whether a plain scalar with this text reads as something other than text, or
as digits that some readers take for a number. -/
def isTyped (text : List Char) : Bool :=
  isNull text || isBool text || isInteger text || isZeroPadded text || isFloat text

end LiteralFlow.Yaml.Plain
