import LiteralFlow.Resolve.Walk

/-!
A resolver that follows every operand of every value, with the log of the
values that it went through.
-/

namespace LiteralFlow.Resolve

def gather {α : Type} (found : Candidates α) : List ValueId → Plan α
  | [] => .found found
  | operand :: operands => .ask operand fun candidates => gather (found ++ candidates) operands

def operandRules {α : Type} (literal? : Literal → Option α) : Rules α where
  literal? := literal?
  plan node _ := gather [] node.kind.operands

structure Trace (α : Type) where
  candidates : Candidates α
  log : List (ValueNode × Descent)

def trace {α : Type} (lookup : Lookup) (literal? : Literal → Option α) (id : ValueId)
    (depth bound : Nat) : Trace α where
  candidates := resolveFrom lookup (operandRules literal?) id depth bound
  log := Visit.flattenAll (visitsFrom lookup (operandRules literal?) id depth bound)

/-- The trace from a depth in a machine word. Its log has the depths that the word
counts, which start again at zero beyond the largest one. -/
def traceFromWord {α : Type} (lookup : Lookup) (literal? : Literal → Option α) (id : ValueId)
    (depth bound : UInt64) : Trace α :=
  let counted := trace lookup literal? id depth.toNat (wordBound depth bound)
  { counted with
    log := counted.log.map fun entry =>
      (entry.1, ⟨entry.2.depth % UInt64.size, bound.toNat⟩) }

end LiteralFlow.Resolve
