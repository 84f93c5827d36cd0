import LiteralFlow.Resolve.Walk

/-!
Resolution of integers: literals, phis and the four operators.
-/

namespace LiteralFlow.Resolve

/-- All results of an operator on a candidate of each side. A pair without a
result in the word gives none. -/
def combine (op : BinaryOp) (xs ys : Candidates Int) : Candidates Int :=
  xs.flatMap fun x => ys.filterMap fun y => op.evaluate? x y

def integerPlan (kind : ValueKind) : Plan Int :=
  match kind with
  | .binary op x y => .ask x fun xs => .ask y fun ys => .found (combine op xs ys)
  | _ => .found []

def integerRules : Rules Int where
  literal? := Literal.integer?
  plan node _ := integerPlan node.kind

def integersFrom (lookup : Lookup) (id : ValueId) (depth bound : Nat) : Candidates Int :=
  resolveFrom lookup integerRules id depth bound

end LiteralFlow.Resolve
