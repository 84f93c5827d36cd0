import LiteralFlow.Resolve.Walk

/-!
One step of the walk, by the kind of the value where it stands, and the budget
that a depth and a bound leave.
-/

namespace LiteralFlow

theorem Lookup.kind_eq_some_iff {lookup : Lookup} {id : ValueId} {kind : ValueKind} :
    lookup.kind? id = some kind ↔ ∃ node, lookup id = some node ∧ node.kind = kind := by
  simp only [Lookup.kind?, Option.map_eq_some_iff]

theorem Lookup.kind_of_node {lookup : Lookup} {id : ValueId} {node : ValueNode}
    (known : lookup id = some node) : lookup.kind? id = some node.kind := by
  rw [Lookup.kind?, known]
  rfl

namespace Resolve

variable {α : Type} {lookup : Lookup} {rules : Rules α} {bound budget : Nat} {id : ValueId}

theorem walk_unknown (unknown : lookup id = none) : walk lookup rules bound budget id = [] := by
  cases budget with
  | zero => rfl
  | succ budget => simp only [walk, unknown]

theorem walk_const {literal : Literal} (kind : lookup.kind? id = some (.const literal)) :
    walk lookup rules bound (budget + 1) id = (rules.literal? literal).toList := by
  obtain ⟨node, known, isConst⟩ := Lookup.kind_eq_some_iff.mp kind
  simp only [walk, known, isConst]

theorem walk_phi {edges : List ValueId} (kind : lookup.kind? id = some (.phi edges)) :
    walk lookup rules bound (budget + 1) id = edges.flatMap (walk lookup rules bound budget) := by
  obtain ⟨node, known, isPhi⟩ := Lookup.kind_eq_some_iff.mp kind
  simp only [walk, known, isPhi]

theorem walk_plan {node : ValueNode} (known : lookup id = some node)
    (notConst : ∀ literal, node.kind ≠ .const literal)
    (notPhi : ∀ edges, node.kind ≠ .phi edges) :
    walk lookup rules bound (budget + 1) id =
      (rules.plan node ⟨bound + 1 - budget, bound⟩).run (walk lookup rules bound budget) := by
  simp only [walk, known]

/-- A height fits the budget of a depth and a bound when the walk can still go
that far below the depth. -/
theorem height_lt_budget_iff (height depth bound : Nat) :
    height < bound + 1 - depth ↔ depth ≤ bound ∧ height ≤ bound - depth := by
  omega

end Resolve

end LiteralFlow
