/-!
Places in source text: positions by line and column, and half-open spans
between two of them.
-/

namespace LiteralFlow

structure Position where
  line : Nat
  column : Nat
deriving DecidableEq, Repr, Inhabited

namespace Position

def before (left right : Position) : Bool :=
  left.line < right.line || (left.line = right.line && left.column < right.column)

end Position

/-- The text from `start` up to, and without, `stop`. -/
structure Span where
  start : Position
  stop : Position
deriving DecidableEq, Repr, Inhabited

namespace Span

def contains (span : Span) (position : Position) : Bool :=
  !position.before span.start && position.before span.stop

def containsStartOf (span other : Span) : Bool := span.contains other.start

def zero : Span := ⟨⟨0, 0⟩, ⟨0, 0⟩⟩

def text (span : Span) : String :=
  s!"{span.start.line}:{span.start.column}-{span.stop.line}:{span.stop.column}"

end Span

end LiteralFlow
