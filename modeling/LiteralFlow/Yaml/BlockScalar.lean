import LiteralFlow.Yaml.Cursor

/-!
Block scalars: the indented lines after `|`, which keeps their breaks, or after
`>`, which folds them.
-/

namespace LiteralFlow.Yaml

/-- What becomes of the line breaks at the end of a block. -/
inductive Chomp where
  | strip
  | clip
  | keep
deriving DecidableEq, Repr

structure BlockHeader where
  chomp : Chomp
  /-- The indentation relative to the parent, if it is given. -/
  increment : Option Nat
deriving DecidableEq, Repr

def chompOf? (c : Char) : Option Chomp :=
  if c = '-' then some .strip else if c = '+' then some .keep else none

def incrementOf? (c : Char) : Option Nat :=
  if '1' ≤ c ∧ c ≤ '9' then some (c.toNat - '0'.toNat) else none

/-- Reads the indicators after `|` or `>`, which stand in either order. -/
def readHeader (text : List Char) : BlockHeader × List Char :=
  match text with
  | [] => (⟨.clip, none⟩, [])
  | c :: rest =>
      match chompOf? c, incrementOf? c with
      | some chomp, _ =>
          match rest.head?.bind incrementOf? with
          | some increment => (⟨chomp, some increment⟩, rest.tail)
          | none => (⟨chomp, none⟩, rest)
      | none, some increment =>
          match rest.head?.bind chompOf? with
          | some chomp => (⟨chomp, some increment⟩, rest.tail)
          | none => (⟨.clip, some increment⟩, rest)
      | none, none => (⟨.clip, none⟩, text)

/-- What follows a line of which only blanks and a comment are left. -/
def endLine? (text : List Char) : Option (List Char) :=
  let rest := text.dropWhile isBlank
  let rest := if rest.head? = some '#' then rest.dropWhile (!isBreak ·) else rest
  match rest with
  | [] => some []
  | c :: rest => if isBreak c then some rest else none

/-- The blank lines at the start of a block: the greatest column that one of
them or the first line with content reaches, the breaks, and the position of
the content. -/
def readLeading? : Nat → Nat → List Char → Option (Nat × List Char × Cursor)
  | greatest, column, [] => some (max greatest column, [], ⟨column, []⟩)
  | greatest, column, c :: text =>
      if c = ' ' then readLeading? greatest (column + 1) text
      else if c = '\t' then none
      else if isBreak c then
        (readLeading? (max greatest column) 0 text).map fun (greatest, breaks, cursor) =>
          (greatest, c :: breaks, cursor)
      else some (max greatest column, [], ⟨column, c :: text⟩)

/-- The lines of a block, without the breaks after the last one. -/
structure BlockScan where
  text : List Char
  /-- The break of the last line with content. -/
  last : Option Char
  /-- The breaks of the blank lines after it. -/
  trailing : List Char
  cursor : Cursor
deriving DecidableEq, Repr

/-- The breaks before a line: `last` of the line with content before it, and
`trailing` of the blank lines between. A folded block turns a single line feed
into a space, unless one of the two lines starts with a blank. -/
def joinLines (folded : Bool) (last : Option Char) (trailing : List Char) : List Char :=
  if folded && last = some '\n' then
    if trailing.isEmpty then [' '] else trailing
  else last.toList ++ trailing

/-- Reads on in a block of indentation `indent`. In the indentation of a line,
`last` and `trailing` are the breaks since the last content, of which `trailing`
has the last one first, and `blank` says whether that line started with a blank. -/
def readBlock? (folded : Bool) (indent : Nat) :
    Bool → Option Char → List Char → Bool → Nat → List Char → Option BlockScan
  | true, _, _, _, column, [] => some ⟨[], none, [], ⟨column, []⟩⟩
  | true, _, _, blank, column, c :: text =>
      if isBreak c then readBlock? folded indent false (some c) [] blank 0 text
      else
        (readBlock? folded indent true none [] blank (column + 1) text).map fun scan =>
          { scan with text := c :: scan.text }
  | false, last, trailing, _, column, [] => some ⟨[], last, trailing.reverse, ⟨column, []⟩⟩
  | false, last, trailing, blank, column, c :: text =>
      if c = ' ' ∧ column < indent then
        readBlock? folded indent false last trailing blank (column + 1) text
      else if c = '\t' ∧ column < indent then none
      else if isBreak c then
        readBlock? folded indent false last (c :: trailing) blank 0 text
      else if column = indent then
        let joint := joinLines (folded && !blank && !isBlank c) last trailing.reverse
        (readBlock? folded indent true none [] (isBlank c) (column + 1) text).map fun scan =>
          { scan with text := joint ++ c :: scan.text }
      else some ⟨[], last, trailing.reverse, ⟨column, c :: text⟩⟩

def BlockScan.chomped (scan : BlockScan) : Chomp → List Char
  | .strip => scan.text
  | .clip => scan.text ++ scan.last.toList
  | .keep => scan.text ++ scan.last.toList ++ scan.trailing

/-- Reads a block scalar after its style indicator. Lines that continue a scalar
here are indented by `indent`. -/
def readBlockScalar? (folded : Bool) (indent : Nat) (text : List Char) :
    Option (List Char × Cursor) := do
  let (header, rest) := readHeader text
  let body ← endLine? rest
  let scan ← match header.increment with
    | some increment => readBlock? folded (indent - 1 + increment) false none [] false 0 body
    | none => do
        let (greatest, breaks, cursor) ← readLeading? 0 0 body
        let indent := max greatest (max indent 1)
        readBlock? folded indent false none breaks.reverse false cursor.column cursor.rest
  some (scan.chomped header.chomp, scan.cursor)

end LiteralFlow.Yaml
