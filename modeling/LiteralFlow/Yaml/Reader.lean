import LiteralFlow.Yaml.BlockScalar
import LiteralFlow.Yaml.FlowScalar

/-!
Reading one document that holds a mapping. Sequences, anchors, tags and keys
that are not scalars of one line are refused.
-/

namespace LiteralFlow.Yaml

/-- The greatest distance from the start of a key to the colon after it. -/
def keyReach : Nat := 1024

/-- Whether a scalar can be a key: it stands on the line of the colon, which is
not too far from its start. -/
def isKey (start : Cursor) (scan : ScalarScan) : Bool :=
  let colon := scan.cursor.skipBlanks
  scan.oneLine && !scan.fresh && colon.column ≤ start.column + keyReach

def readKey? (indent : Nat) (cursor : Cursor) : Option (Scalar × Cursor) := do
  let (key, scan) ← readScalar? false (indent + 1) cursor
  match scan.cursor.skipBlanks with
  | ⟨column, ':' :: text⟩ =>
      if isKey cursor scan && endsToken text then some (key, ⟨column + 1, text⟩) else none
  | _ => none

/-- A node, whether the position after it is in the indentation of a line, and
that position. -/
structure NodeScan where
  node : Node
  fresh : Bool
  cursor : Cursor
deriving Repr

def NodeScan.ofScalar (value : Scalar) (scan : ScalarScan) : NodeScan :=
  ⟨.scalar value, scan.fresh, scan.cursor⟩

mutual

/-- Reads the entries of a flow mapping up to the closing brace, from after the
opening brace or a comma. -/
def readFlow? (indent : Nat) : Nat → Cursor → Option (List (Scalar × Node) × Cursor)
  | 0, _ => none
  | fuel + 1, cursor =>
      let start := (cursor.skip true false).2
      match start.rest with
      | '\x7d' :: text => some ([], ⟨start.column + 1, text⟩)
      | _ =>
          if start.isMarker then none
          else do
            let (key, scan) ← readScalar? true indent start
            let (crossed, next) := scan.cursor.skip true false
            let (value, next) ← match next.rest with
              | ':' :: text =>
                  if isKey start scan && !crossed then
                    readFlowValue? indent fuel ⟨next.column + 1, text⟩
                  else none
              | _ => some (Node.scalar .empty, next)
            let next := (next.skip true false).2
            match next.rest with
            | ',' :: text => do
                let (entries, last) ← readFlow? indent fuel ⟨next.column + 1, text⟩
                some ((key, value) :: entries, last)
            | '\x7d' :: text => some ([(key, value)], ⟨next.column + 1, text⟩)
            | _ => none

def readFlowValue? (indent : Nat) : Nat → Cursor → Option (Node × Cursor)
  | 0, _ => none
  | fuel + 1, cursor =>
      let start := (cursor.skip true false).2
      match start.rest with
      | ',' :: _ => some (.scalar .empty, start)
      | '\x7d' :: _ => some (.scalar .empty, start)
      | '\x7b' :: text => do
          let (entries, next) ← readFlow? indent fuel ⟨start.column + 1, text⟩
          some (.mapping entries, next)
      | _ =>
          if start.isMarker then none
          else do
            let (value, scan) ← readScalar? true indent start
            some (.scalar value, scan.cursor)

end

mutual

/-- Reads the entries of a block mapping whose keys stand in column `indent`,
from the first key. -/
def readEntries? (indent : Nat) :
    Nat → Cursor → Option (List (Scalar × Node) × Bool × Cursor)
  | 0, _ => none
  | fuel + 1, cursor => do
      let (key, cursor) ← readKey? indent cursor
      let value ← readValue? indent fuel cursor
      let (fresh, next) := value.cursor.skip false value.fresh
      if next.rest.isEmpty || next.isMarker || next.column < indent then
        some ([(key, value.node)], fresh, next)
      else if fresh && next.column = indent then do
        let (entries, last) ← readEntries? indent fuel next
        some ((key, value.node) :: entries, last)
      else none

/-- Reads the value of a key in column `indent`. Nothing before the next key is
an empty value, but the indicator of a block scalar may stand in the column of
the key. -/
def readValue? (indent : Nat) : Nat → Cursor → Option NodeScan
  | 0, _ => none
  | fuel + 1, cursor =>
      let (fresh, start) := cursor.skip false false
      if start.rest.isEmpty || start.isMarker || (fresh && start.column < indent) then
        some ⟨.scalar .empty, fresh, start⟩
      else
        match start.rest with
        | '|' :: text => do
            let (value, next) ← readBlockScalar? false (indent + 1) text
            some ⟨.scalar ⟨false, value⟩, true, next⟩
        | '>' :: text => do
            let (value, next) ← readBlockScalar? true (indent + 1) text
            some ⟨.scalar ⟨false, value⟩, true, next⟩
        | _ =>
            if fresh && start.column = indent then some ⟨.scalar .empty, fresh, start⟩
            else
              match start.rest with
              | '\x7b' :: text => do
                  let (entries, next) ← readFlow? (indent + 1) fuel ⟨start.column + 1, text⟩
                  some ⟨.mapping entries, false, next⟩
              | _ =>
                  if fresh && (readKey? indent start).isSome then do
                    let (entries, fresh, next) ← readEntries? start.column fuel start
                    some ⟨.mapping entries, fresh, next⟩
                  else do
                    let (value, scan) ← readScalar? false (indent + 1) start
                    some (.ofScalar value scan)

end

def isFinished : Nat → Bool → Cursor → Bool
  | 0, _, _ => false
  | fuel + 1, fresh, cursor =>
      let next := (cursor.skip false fresh).2
      next.rest.isEmpty ||
        match next.marker? '.' with
        | some next => isFinished fuel false next
        | none => false

def readRoot? (fuel : Nat) (fresh : Bool) (cursor : Cursor) :
    Option (List (Scalar × Node) × Bool × Cursor) :=
  match cursor.rest with
  | '\x7b' :: text => do
      let (entries, next) ← readFlow? 0 fuel ⟨cursor.column + 1, text⟩
      some (entries, false, next)
  | _ =>
      if fresh && !cursor.isMarker then readEntries? cursor.column fuel cursor else none

def parse? (text : String) : Option (List (Scalar × Node)) :=
  if text.toList.all isAllowed then do
    let characters := normalizeBreaks text.toList
    let fuel := 2 * characters.length + 2
    let (fresh, start) := (Cursor.ofText characters).skip false true
    let (fresh, start) :=
      match start.marker? '-' with
      | some next => next.skip false false
      | none => (fresh, start)
    let (entries, fresh, next) ← readRoot? fuel fresh start
    if isFinished fuel fresh next then some entries else none
  else none

end LiteralFlow.Yaml
