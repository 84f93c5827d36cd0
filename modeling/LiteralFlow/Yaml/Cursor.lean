import LiteralFlow.Yaml.Character

/-!
Positions in a document: the text that is left, and the column where it starts.
-/

namespace LiteralFlow.Yaml

structure Cursor where
  column : Nat
  rest : List Char
deriving DecidableEq, Repr

/-- A text in which every line break of the older forms is a line feed. -/
def normalizeBreaks : List Char → List Char
  | [] => []
  | '\r' :: '\n' :: text => '\n' :: normalizeBreaks text
  | c :: text => (if c = '\r' ∨ c = '\u0085' then '\n' else c) :: normalizeBreaks text

/-- Moves over blanks, comments and line breaks. `fresh` says whether only the
indentation of the line has been read so far; there a tab is no blank, unless in
a flow mapping. A byte order mark at the start of a line is passed over, but takes
up a column. -/
def skipFrom (flow : Bool) : Bool → Bool → Nat → List Char → Bool × Cursor
  | fresh, _, column, [] => (fresh, ⟨column, []⟩)
  | fresh, comment, column, c :: text =>
      if isBreak c then skipFrom flow true false 0 text
      else if comment then skipFrom flow fresh true (column + 1) text
      else if c = ' ' ∨ (c = '\t' ∧ (flow ∨ ¬fresh)) then
        skipFrom flow fresh false (column + 1) text
      else if c = '#' then skipFrom flow fresh true (column + 1) text
      else if column = 0 ∧ c = orderMark then skipFrom flow fresh false 1 text
      else (fresh, ⟨column, c :: text⟩)

namespace Cursor

def ofText (text : List Char) : Cursor := ⟨0, text⟩

/-- Moves to the next token, and says whether it is the first of its line. -/
def skip (cursor : Cursor) (flow fresh : Bool) : Bool × Cursor :=
  skipFrom flow fresh false cursor.column cursor.rest

def skipBlanks (cursor : Cursor) : Cursor :=
  ⟨cursor.column + (cursor.rest.takeWhile isBlank).length, cursor.rest.dropWhile isBlank⟩

/-- The position after a document marker, which is `mark` three times at the
start of a line. -/
def marker? (mark : Char) : Cursor → Option Cursor
  | ⟨0, a :: b :: c :: text⟩ =>
      if a = mark ∧ b = mark ∧ c = mark ∧ endsToken text then some ⟨3, text⟩ else none
  | _ => none

def isMarker (cursor : Cursor) : Bool :=
  (cursor.marker? '-').isSome || (cursor.marker? '.').isSome

end Cursor

end LiteralFlow.Yaml
