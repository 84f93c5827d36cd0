import LiteralFlow.Json.Basic

/-!
Reading JSON text by the grammar of RFC 8259. A reader takes characters from
the front of a text and gives what it read with the rest.
-/

namespace LiteralFlow.Json

def isSpace (c : Char) : Bool := c = ' ' || c = '\n' || c = '\t' || c = '\r'

def skipSpace (text : List Char) : List Char := text.dropWhile isSpace

/-- One step of a string: a character, or the UTF-16 code of an escape. -/
inductive StringUnit where
  | char (c : Char)
  | code (value : Nat)
deriving DecidableEq, Repr

def escapedChar? (c : Char) : Option Char :=
  match c with
  | '\x22' => some '\x22'
  | '\\' => some '\\'
  | '/' => some '/'
  | 'b' => some '\x08'
  | 'f' => some '\x0c'
  | 'n' => some '\n'
  | 'r' => some '\r'
  | 't' => some '\t'
  | _ => none

def readUnits? : List Char → Option (List StringUnit × List Char)
  | [] => none
  | c :: rest =>
      if c = '\x22' then some ([], rest)
      else if c = '\\' then
        match rest with
        | [] => none
        | e :: rest =>
            match escapedChar? e with
            | some c => do
                let (units, rest) ← readUnits? rest
                some (.char c :: units, rest)
            | none =>
                if e = 'u' then
                  match rest with
                  | h₁ :: h₂ :: h₃ :: h₄ :: rest => do
                      let code ← Text.readNumeral? 16 [h₁, h₂, h₃, h₄]
                      let (units, rest) ← readUnits? rest
                      some (.code code :: units, rest)
                  | _ => none
                else none
      else if c.toNat < 0x20 then none
      else do
        let (units, rest) ← readUnits? rest
        some (.char c :: units, rest)

def isHighSurrogate (code : Nat) : Bool := 0xd800 ≤ code && code < 0xdc00

def isLowSurrogate (code : Nat) : Bool := 0xdc00 ≤ code && code < 0xe000

def pairedChar (high low : Nat) : Char :=
  Char.ofNat (0x10000 + (high - 0xd800) * 0x400 + (low - 0xdc00))

/-- The text that the units of a string form, if each surrogate has its pair. -/
def assemble? : List StringUnit → Option (List Char)
  | [] => some []
  | .char c :: units => (assemble? units).map (c :: ·)
  | .code high :: .code low :: units =>
      if isHighSurrogate high then
        if isLowSurrogate low then (assemble? units).map (pairedChar high low :: ·) else none
      else if isLowSurrogate high then none
      else (assemble? (.code low :: units)).map (Char.ofNat high :: ·)
  | .code code :: units =>
      if isHighSurrogate code || isLowSurrogate code then none
      else (assemble? units).map (Char.ofNat code :: ·)

def readString? (text : List Char) : Option (Option String × List Char) := do
  let (units, rest) ← readUnits? text
  some ((assemble? units).map String.ofList, rest)

def readDigits? (text : List Char) : Option (List Char × List Char) :=
  let digits := text.takeWhile Char.isDigit
  if digits.isEmpty then none else some (digits, text.dropWhile Char.isDigit)

/-- Digits with no zero before others. -/
def readWhole? (text : List Char) : Option (Nat × List Char) := do
  let (digits, rest) ← readDigits? text
  if digits.head? = some '0' ∧ digits.length ≠ 1 then none
  else some (← Text.readNumeral? 10 digits, rest)

def readFraction? (text : List Char) : Option (List Char × List Char) :=
  match text with
  | '.' :: rest => readDigits? rest
  | _ => some ([], text)

def readMagnitude? (sign : Int) (text : List Char) : Option (Option Int × List Char) := do
  let (digits, rest) ← readDigits? text
  let magnitude ← Text.readNumeral? 10 digits
  some (some (sign * magnitude), rest)

def readSignedExponent? (text : List Char) : Option (Option Int × List Char) :=
  match text with
  | '-' :: rest => readMagnitude? (-1) rest
  | '+' :: rest => readMagnitude? 1 rest
  | _ => readMagnitude? 1 text

def readExponent? (text : List Char) : Option (Option Int × List Char) :=
  match text with
  | 'e' :: rest => readSignedExponent? rest
  | 'E' :: rest => readSignedExponent? rest
  | _ => some (none, text)

def readUnsigned? (negative : Bool) (text : List Char) : Option (JsonNumber × List Char) := do
  let (whole, rest) ← readWhole? text
  let (fraction, rest) ← readFraction? rest
  let (exponent, rest) ← readExponent? rest
  some (⟨negative, whole, fraction, exponent⟩, rest)

def readNumber? (text : List Char) : Option (JsonNumber × List Char) :=
  match text with
  | '-' :: rest => readUnsigned? true rest
  | _ => readUnsigned? false text

def readScalar? (text : List Char) : Option (Json × List Char) :=
  match text with
  | '\x22' :: rest => (readString? rest).map fun (value, rest) => (.string value, rest)
  | 'n' :: 'u' :: 'l' :: 'l' :: rest => some (.null, rest)
  | 't' :: 'r' :: 'u' :: 'e' :: rest => some (.bool true, rest)
  | 'f' :: 'a' :: 'l' :: 's' :: 'e' :: rest => some (.bool false, rest)
  | _ => (readNumber? text).map fun (value, rest) => (.number value, rest)

def readKey? (text : List Char) : Option (Option String × List Char) :=
  match skipSpace text with
  | '\x22' :: rest => do
      let (key, rest) ← readString? rest
      match skipSpace rest with
      | ':' :: rest => some (key, rest)
      | _ => none
  | _ => none

mutual

/-- A value, of which `fuel` bounds the nesting and the number of parts. -/
def readValue? : Nat → List Char → Option (Json × List Char)
  | 0, _ => none
  | fuel + 1, text =>
      match skipSpace text with
      | '[' :: rest =>
          match skipSpace rest with
          | ']' :: rest => some (.array [], rest)
          | _ => (readItems? fuel rest).map fun (items, rest) => (.array items, rest)
      | '\x7b' :: rest =>
          match skipSpace rest with
          | '\x7d' :: rest => some (.object [], rest)
          | _ => (readMembers? fuel rest).map fun (members, rest) => (.object members, rest)
      | rest => readScalar? rest

def readItems? : Nat → List Char → Option (List Json × List Char)
  | 0, _ => none
  | fuel + 1, text => do
      let (item, rest) ← readValue? fuel text
      match skipSpace rest with
      | ',' :: rest => (readItems? fuel rest).map fun (items, rest) => (item :: items, rest)
      | ']' :: rest => some ([item], rest)
      | _ => none

def readMembers? : Nat → List Char → Option (List (Option String × Json) × List Char)
  | 0, _ => none
  | fuel + 1, text => do
      let (key, rest) ← readKey? text
      let (value, rest) ← readValue? fuel rest
      match skipSpace rest with
      | ',' :: rest =>
          (readMembers? fuel rest).map fun (members, rest) => ((key, value) :: members, rest)
      | '\x7d' :: rest => some ([(key, value)], rest)
      | _ => none

end

/-- The value of a whole text. Every part of a value takes a character, so the
length of the text is fuel enough. -/
def parse? (text : String) : Option Json := do
  let characters := text.toList
  let (value, rest) ← readValue? (characters.length + 1) characters
  if (skipSpace rest).isEmpty then some value else none

end LiteralFlow.Json
