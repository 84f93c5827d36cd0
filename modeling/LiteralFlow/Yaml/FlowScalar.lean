import LiteralFlow.Text.Digits
import LiteralFlow.Yaml.Basic
import LiteralFlow.Yaml.Cursor

/-!
Plain and quoted scalars. A line break inside one is folded: alone it becomes a
space, and of several the first is dropped.
-/

namespace LiteralFlow.Yaml

/-- What stands between two words of a scalar, the last character first. -/
inductive Gap where
  | blanks (text : List Char)
  /-- Line breaks, of which the first is missing if it was escaped. -/
  | breaks (first : Option Char) (more : List Char)
deriving DecidableEq, Repr

namespace Gap

def none : Gap := blanks []

def crossesLine : Gap → Bool
  | blanks _ => false
  | breaks _ _ => true

def isNone : Gap → Bool
  | blanks text => text.isEmpty
  | breaks _ _ => false

/-- Blanks next to a line break are dropped. -/
def addBlank (gap : Gap) (c : Char) : Gap :=
  match gap with
  | blanks text => blanks (c :: text)
  | breaks first more => breaks first more

def addBreak (gap : Gap) (c : Char) : Gap :=
  match gap with
  | blanks _ => breaks (some c) []
  | breaks first more => breaks first (c :: more)

def fold : Gap → List Char
  | blanks text => text.reverse
  | breaks (some '\n') [] => [' ']
  | breaks (some '\n') more => more.reverse
  | breaks (some c) more => c :: more.reverse
  | breaks Option.none more => more.reverse

end Gap

structure ScalarScan where
  text : List Char
  /-- Whether the scalar itself stands on one line. -/
  oneLine : Bool
  /-- Whether the position after it is in the indentation of a line. -/
  fresh : Bool
  cursor : Cursor
deriving DecidableEq, Repr

namespace ScalarScan

def precede (gap : Gap) (word : List Char) (scan : ScalarScan) : ScalarScan :=
  { scan with
    text := gap.fold ++ word ++ scan.text
    oneLine := scan.oneLine && !gap.crossesLine }

end ScalarScan

def startsPlain (flow : Bool) (c : Char) (text : List Char) : Bool :=
  if c = '-' then !endsToken text
  else if c = '?' ∨ c = ':' then !flow && !endsToken text
  else !isIndicator c && !isBlank c && !isBreak c

/-- Whether a plain scalar ends before `c`, which stands in `column` after `gap`
and is followed by `text`. -/
def endsPlain (flow : Bool) (indent : Nat) (gap : Gap) (column : Nat) (c : Char)
    (text : List Char) : Bool :=
  (!gap.isNone && ((!flow && column < indent) || c = '#')) ||
    (gap.crossesLine && Cursor.isMarker ⟨column, c :: text⟩) ||
      (c = ':' && endsToken text) || (flow && isFlowIndicator c)

/-- Whether a colon stands where a flow mapping leaves open what it means. -/
def isStrayColon (c : Char) : List Char → Bool
  | d :: _ => c = ':' && (d = '?' || isFlowIndicator d)
  | [] => false

/-- Reads on in a plain scalar whose continuation lines are indented by
`indent`. -/
def readPlain? (flow : Bool) (indent : Nat) : Gap → Nat → List Char → Option ScalarScan
  | gap, column, [] => some ⟨[], true, gap.crossesLine, ⟨column, []⟩⟩
  | gap, column, c :: text =>
      if isBreak c then readPlain? flow indent (gap.addBreak c) 0 text
      else if isBlank c then
        if c = '\t' ∧ gap.crossesLine ∧ column < indent then none
        else readPlain? flow indent (gap.addBlank c) (column + 1) text
      else if endsPlain flow indent gap column c text then
        some ⟨[], true, gap.crossesLine, ⟨column, c :: text⟩⟩
      else if flow && isStrayColon c text then none
      else (readPlain? flow indent Gap.none (column + 1) text).map (.precede gap [c])

/-- Reads on in a single-quoted scalar; a quote is doubled in it. -/
def readSingle? : Gap → Nat → List Char → Option ScalarScan
  | _, _, [] => none
  | gap, column, c :: text =>
      if isBreak c then readSingle? (gap.addBreak c) 0 text
      else if isBlank c then readSingle? (gap.addBlank c) (column + 1) text
      else if Cursor.isMarker ⟨column, c :: text⟩ then none
      else if c = '\x27' then
        match text with
        | '\x27' :: text => (readSingle? Gap.none (column + 2) text).map (.precede gap [c])
        | text => some (.precede gap [] ⟨[], true, false, ⟨column + 1, text⟩⟩)
      else (readSingle? Gap.none (column + 1) text).map (.precede gap [c])

def simpleEscape? (c : Char) : Option Char :=
  match c with
  | '0' => some '\x00'
  | 'a' => some '\x07'
  | 'b' => some '\x08'
  | 't' => some '\t'
  | '\t' => some '\t'
  | 'n' => some '\n'
  | 'v' => some '\x0b'
  | 'f' => some '\x0c'
  | 'r' => some '\r'
  | 'e' => some '\x1b'
  | ' ' => some ' '
  | '\x22' => some '\x22'
  | '/' => some '/'
  | '\\' => some '\\'
  | 'N' => some '\u0085'
  | '_' => some '\u00a0'
  | 'L' => some '\u2028'
  | 'P' => some '\u2029'
  | _ => none

def escapeWidth (c : Char) : Nat :=
  match c with
  | 'x' => 2
  | 'u' => 4
  | 'U' => 8
  | _ => 0

def charOf? (code : Nat) : Option Char :=
  if code.isValidChar then some (Char.ofNat code) else none

/-- Reads on in a double-quoted scalar. Of an escape by code point `pending`
digits are to come and `code` is the value of those before. -/
def readDouble? : Gap → Nat → Nat → Nat → List Char → Option ScalarScan
  | _, _, _, _, [] => none
  | gap, pending + 1, code, column, c :: text => do
      let digit ← Text.digitValue? 16 c
      let code := 16 * code + digit
      if pending = 0 then
        let char ← charOf? code
        (readDouble? Gap.none 0 0 (column + 1) text).map (.precede gap [char])
      else readDouble? gap pending code (column + 1) text
  | gap, 0, _, column, c :: text =>
      if isBreak c then readDouble? (gap.addBreak c) 0 0 0 text
      else if isBlank c then readDouble? (gap.addBlank c) 0 0 (column + 1) text
      else if Cursor.isMarker ⟨column, c :: text⟩ then none
      else if c = '\x22' then some (.precede gap [] ⟨[], true, false, ⟨column + 1, text⟩⟩)
      else if c = '\\' then
        match text with
        | [] => none
        | d :: text =>
            if isBreak d then
              (readDouble? (.breaks none []) 0 0 0 text).map (.precede gap [])
            else if escapeWidth d = 0 then do
              let char ← simpleEscape? d
              (readDouble? Gap.none 0 0 (column + 2) text).map (.precede gap [char])
            else readDouble? gap (escapeWidth d) 0 (column + 2) text
      else (readDouble? Gap.none 0 0 (column + 1) text).map (.precede gap [c])

def readScalar? (flow : Bool) (indent : Nat) : Cursor → Option (Scalar × ScalarScan)
  | ⟨_, []⟩ => none
  | ⟨column, c :: text⟩ =>
      if c = '\x27' then
        (readSingle? Gap.none (column + 1) text).map fun scan => (⟨false, scan.text⟩, scan)
      else if c = '\x22' then
        (readDouble? Gap.none 0 0 (column + 1) text).map fun scan => (⟨false, scan.text⟩, scan)
      else if startsPlain flow c text then
        (readPlain? flow indent Gap.none column (c :: text)).map fun scan =>
          (⟨true, scan.text⟩, scan)
      else none

end LiteralFlow.Yaml
