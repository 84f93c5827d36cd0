import LiteralFlow.Graph.Basic
import LiteralFlow.Resolve.Candidates

/-!
The walk that all resolvers share. It starts at a value with a depth and a
bound, and each step to an operand adds one to the depth. A literal gives its
value, a phi gives what its edges give, in their order, and all other values
are left to a plan that may ask for candidates of any values. The bound alone
ends the walk on a cycle.
-/

namespace LiteralFlow.Resolve

/-- How a value is resolved from other values: candidates that are known, or a
value to resolve first and what to do with its candidates. -/
inductive Plan (α : Type) where
  | found (candidates : Candidates α)
  | ask (operand : ValueId) (next : Candidates α → Plan α)

/-- The candidates of a plan, when `answer` resolves the values that it asks for. -/
def Plan.run {α : Type} (answer : ValueId → Candidates α) : Plan α → Candidates α
  | found candidates => candidates
  | ask operand next => (next (answer operand)).run answer

/-- The depth of a value's operands, and the bound on depths. -/
structure Descent where
  depth : Nat
  bound : Nat
deriving DecidableEq, Repr

structure Rules (α : Type) where
  literal? : Literal → Option α
  plan : ValueNode → Descent → Plan α

/-- The candidates of a value when `budget` more values can be visited in a row,
below the bound `bound`. -/
def walk {α : Type} (lookup : Lookup) (rules : Rules α) (bound : Nat) :
    Nat → ValueId → Candidates α
  | 0, _ => []
  | budget + 1, id =>
      match lookup id with
      | none => []
      | some node =>
          match node.kind with
          | .const literal => (rules.literal? literal).toList
          | .phi edges => edges.flatMap (walk lookup rules bound budget)
          | _ => (rules.plan node ⟨bound + 1 - budget, bound⟩).run (walk lookup rules bound budget)

/-- The candidates of a value that is reached at `depth`. -/
def resolveFrom {α : Type} (lookup : Lookup) (rules : Rules α) (id : ValueId)
    (depth bound : Nat) : Candidates α :=
  walk lookup rules bound (bound + 1 - depth) id

/-- The bound that ends a walk whose depths are machine words. A bound below the
largest word is passed before the counter overflows. No word is beyond the largest
one: from there the counter starts again at zero, and no depth ends the walk. It is
then followed for one turn of the counter, which no run comes to the end of. -/
def wordBound (depth bound : UInt64) : Nat :=
  if bound.toNat + 1 < UInt64.size then bound.toNat else depth.toNat + bound.toNat

/-- One use of a plan, with the uses that happened while it ran. -/
inductive Visit where
  | mk (node : ValueNode) (descent : Descent) (inner : List Visit)

def Plan.visits {α : Type} (answer : ValueId → Candidates α) (inner : ValueId → List Visit) :
    Plan α → List Visit
  | found _ => []
  | ask operand next => inner operand ++ (next (answer operand)).visits answer inner

def visits {α : Type} (lookup : Lookup) (rules : Rules α) (bound : Nat) :
    Nat → ValueId → List Visit
  | 0, _ => []
  | budget + 1, id =>
      match lookup id with
      | none => []
      | some node =>
          match node.kind with
          | .const _ => []
          | .phi edges => edges.flatMap (visits lookup rules bound budget)
          | _ =>
              let descent := ⟨bound + 1 - budget, bound⟩
              [.mk node descent ((rules.plan node descent).visits
                (walk lookup rules bound budget) (visits lookup rules bound budget))]

def visitsFrom {α : Type} (lookup : Lookup) (rules : Rules α) (id : ValueId)
    (depth bound : Nat) : List Visit :=
  visits lookup rules bound (bound + 1 - depth) id

mutual

/-- A visit and those inside it, each before its inner ones. -/
def Visit.flatten : Visit → List (ValueNode × Descent)
  | mk node descent inner => (node, descent) :: Visit.flattenAll inner

def Visit.flattenAll : List Visit → List (ValueNode × Descent)
  | [] => []
  | visit :: visits => visit.flatten ++ Visit.flattenAll visits

end

end LiteralFlow.Resolve
