import LiteralFlow.Integer
import LiteralFlow.Text.Blank
import LiteralFlow.Text.Digits

/-!
Integer literals in source form: blanks around the literal and underscores
anywhere are dropped; then comes one optional sign, and digits whose radix the
first characters give.
-/

namespace LiteralFlow.Literal

/-- The radix of an unsigned numeral and its digits. A leading zero before
further characters means octal. -/
def splitRadix : List Char → Nat × List Char
  | '0' :: 'x' :: digits => (16, digits)
  | '0' :: 'X' :: digits => (16, digits)
  | '0' :: 'o' :: digits => (8, digits)
  | '0' :: 'O' :: digits => (8, digits)
  | '0' :: 'b' :: digits => (2, digits)
  | '0' :: 'B' :: digits => (2, digits)
  | '0' :: c :: digits => (8, c :: digits)
  | digits => (10, digits)

def readUnsigned? (text : List Char) : Option Nat :=
  let (radix, digits) := splitRadix text
  Text.readNumeral? radix digits

def readSigned? : List Char → Option Int
  | '-' :: text => (readUnsigned? text).map fun n => -(n : Int)
  | '+' :: text => (readUnsigned? text).map fun n => (n : Int)
  | text => (readUnsigned? text).map fun n => (n : Int)

def parseInteger? (text : String) : Option Int := do
  let cleaned := (Text.trimBlanks text.toList).filter (· ≠ '_')
  Integer.fit? (← readSigned? cleaned)

end LiteralFlow.Literal
