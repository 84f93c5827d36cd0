import LiteralFlow.Text.Bytes
import LiteralFlow.Text.Digits

/-!
Quoted literals in source form. A back-quoted body is raw text, a double-quoted
body is a sequence of units that together form UTF-8 text, and a single-quoted
body is one unit. Text that no pair of quotes encloses stands for itself.
-/

namespace LiteralFlow.Literal

inductive Quote where
  | back
  | double
  | single
deriving DecidableEq, Repr

namespace Quote

def mark : Quote → Char
  | back => '\x60'
  | double => '\x22'
  | single => '\x27'

def ofMark? (c : Char) : Option Quote :=
  if c = back.mark then some back
  else if c = double.mark then some double
  else if c = single.mark then some single
  else none

end Quote

/-- What one step of a quoted body stands for: a character, or a byte of the
UTF-8 form. -/
inductive QuotedUnit where
  | char (c : Char)
  | byte (value : UInt8)
deriving DecidableEq, Repr

namespace QuotedUnit

def bytes : QuotedUnit → List UInt8
  | char c => String.utf8EncodeChar c
  | byte value => [value]

/-- The character of a unit that stands alone: a byte names the code point of
the same number. -/
def toChar : QuotedUnit → Char
  | char c => c
  | byte value => Char.ofNat value.toNat

end QuotedUnit

inductive UnitFault where
  | delimiter
  | escape
deriving DecidableEq, Repr

def scalar? (n : Nat) : Option Char :=
  if n.isValidChar then some (Char.ofNat n) else none

def letterEscape? (quote letter : Char) : Option Char :=
  match letter with
  | 'a' => some '\x07'
  | 'b' => some '\x08'
  | 'f' => some '\x0c'
  | 'n' => some '\n'
  | 'r' => some '\r'
  | 't' => some '\t'
  | 'v' => some '\x0b'
  | '\\' => some '\\'
  | _ => if letter = quote then some quote else none

def escapedUnit? (quote : Char) (text : List Char) : Option (QuotedUnit × List Char) :=
  match text with
  | [] => none
  | letter :: rest =>
      match letterEscape? quote letter with
      | some c => some (.char c, rest)
      | none =>
          match letter with
          | 'x' => do
              let (value, tail) ← Text.takeNumeral? 16 2 rest
              some (.byte value.toUInt8, tail)
          | 'u' => do
              let (value, tail) ← Text.takeNumeral? 16 4 rest
              some (.char (← scalar? value), tail)
          | 'U' => do
              let (value, tail) ← Text.takeNumeral? 16 8 rest
              some (.char (← scalar? value), tail)
          | _ => do
              let (value, tail) ← Text.takeNumeral? 8 3 (letter :: rest)
              if value ≤ 255 then some (.byte value.toUInt8, tail) else none

def nextUnit (quote first : Char) (rest : List Char) :
    Except UnitFault (QuotedUnit × List Char) :=
  if first = quote ∨ first = '\n' then .error .delimiter
  else if first = '\\' then
    match escapedUnit? quote rest with
    | some step => .ok step
    | none => .error .escape
  else .ok (.char first, rest)

theorem take_numeral_length {radix width value : Nat} {text tail : List Char}
    (taken : Text.takeNumeral? radix width text = some (value, tail)) :
    tail.length ≤ text.length := by
  simp only [Text.takeNumeral?] at taken
  split at taken
  · simp only [Option.map_eq_some_iff, Prod.mk.injEq] at taken
    obtain ⟨_, _, _, rfl⟩ := taken
    simp
  · cases taken

theorem escaped_unit_length {quote : Char} {text tail : List Char} {unit : QuotedUnit}
    (read : escapedUnit? quote text = some (unit, tail)) : tail.length ≤ text.length := by
  unfold escapedUnit? at read
  split at read
  · cases read
  · rename_i letter rest
    have longer : rest.length ≤ (letter :: rest).length := Nat.le_succ _
    split at read
    · -- A letter that is an escape by itself.
      cases read
      exact longer
    · split at read
      · -- A byte of two digits.
        obtain ⟨⟨value, after⟩, taken, built⟩ := Option.bind_eq_some_iff.mp read
        cases built
        exact Nat.le_trans (take_numeral_length taken) longer
      · -- A character of four digits.
        obtain ⟨⟨value, after⟩, taken, built⟩ := Option.bind_eq_some_iff.mp read
        obtain ⟨c, -, unit⟩ := Option.bind_eq_some_iff.mp built
        cases unit
        exact Nat.le_trans (take_numeral_length taken) longer
      · -- A character of eight digits.
        obtain ⟨⟨value, after⟩, taken, built⟩ := Option.bind_eq_some_iff.mp read
        obtain ⟨c, -, unit⟩ := Option.bind_eq_some_iff.mp built
        cases unit
        exact Nat.le_trans (take_numeral_length taken) longer
      · -- A byte of three digits, of which the letter is the first.
        obtain ⟨⟨value, after⟩, taken, built⟩ := Option.bind_eq_some_iff.mp read
        dsimp only at built
        split at built
        · cases built
          exact take_numeral_length taken
        · cases built

theorem next_unit_length {quote first : Char} {rest tail : List Char} {unit : QuotedUnit}
    (read : nextUnit quote first rest = .ok (unit, tail)) : tail.length ≤ rest.length := by
  unfold nextUnit at read
  split at read
  · cases read
  · split at read
    · split at read
      · rename_i step found
        cases read
        exact escaped_unit_length found
      · cases read
    · cases read
      exact Nat.le_refl _

/-- The units of a body, or the first fault with the text that starts at it. -/
def readUnits (quote : Char) : List Char → Except (UnitFault × List Char) (List QuotedUnit)
  | [] => .ok []
  | first :: rest =>
      match _ : nextUnit quote first rest with
      | .error fault => .error (fault, first :: rest)
      | .ok (unit, tail) =>
          match readUnits quote tail with
          | .error fault => .error fault
          | .ok units => .ok (unit :: units)
termination_by body => body.length
decreasing_by
  have := next_unit_length ‹_›
  simp only [List.length_cons]
  omega

inductive QuoteError where
  | invalidEscape (literal : String) (offset : Nat)
  | unescapedDelimiter (literal : String)
  | characterCount (literal : String)
  | invalidUtf8 (literal : String)
deriving DecidableEq, Repr

def QuoteError.message : QuoteError → String
  | invalidEscape literal offset => s!"Invalid escape sequence at byte {offset} in {literal}"
  | unescapedDelimiter literal => s!"Unescaped quote or newline in {literal}"
  | characterCount literal => s!"Character literal {literal} must hold exactly one character"
  | invalidUtf8 literal => s!"Literal {literal} does not decode to valid UTF-8"

/-- The quotes around a literal and its body: the same mark opens and closes. -/
def splitQuotes? (literal : List Char) : Option (Quote × List Char) :=
  match literal with
  | first :: second :: rest => do
      let quote ← Quote.ofMark? first
      if (second :: rest).getLast? = some first then some (quote, (second :: rest).dropLast)
      else none
  | _ => none

/-- The units of a quoted body, with a fault reported at its byte offset. -/
def decodeUnits (literal : String) (quote : Quote) (body : List Char) :
    Except QuoteError (List QuotedUnit) :=
  match readUnits quote.mark body with
  | .ok units => .ok units
  | .error (.delimiter, _) => .error (.unescapedDelimiter literal)
  | .error (.escape, rest) =>
      .error (.invalidEscape literal (Text.byteLength body - Text.byteLength rest))

def unquote (literal : String) : Except QuoteError String :=
  match splitQuotes? literal.toList with
  | none => .ok literal
  | some (.back, body) =>
      if Quote.back.mark ∈ body then .error (.unescapedDelimiter literal)
      else .ok (String.ofList (body.filter (· ≠ '\r')))
  | some (.double, body) => do
      let units ← decodeUnits literal .double body
      match String.fromUTF8? (units.flatMap QuotedUnit.bytes).toByteArray with
      | some text => .ok text
      | none => .error (.invalidUtf8 literal)
  | some (.single, body) => do
      match ← decodeUnits literal .single body with
      | [unit] => .ok (String.ofList [unit.toChar])
      | _ => .error (.characterCount literal)

end LiteralFlow.Literal
