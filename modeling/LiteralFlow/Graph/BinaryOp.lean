import LiteralFlow.Integer

/-!
The binary operators of a value graph.
-/

namespace LiteralFlow

inductive BinaryOp where
  | add
  | sub
  | mul
  | div
deriving DecidableEq, Repr

namespace BinaryOp

def symbol : BinaryOp → String
  | add => "+"
  | sub => "-"
  | mul => "*"
  | div => "/"

/-- The result over the unbounded integers. A quotient is rounded toward zero
and needs a divisor other than zero. -/
def unbounded? (op : BinaryOp) (x y : Int) : Option Int :=
  match op with
  | add => some (x + y)
  | sub => some (x - y)
  | mul => some (x * y)
  | div => if y = 0 then none else some (x.tdiv y)

def evaluate? (op : BinaryOp) (x y : Int) : Option Int := do
  Integer.fit? (← op.unbounded? x y)

end BinaryOp

end LiteralFlow
