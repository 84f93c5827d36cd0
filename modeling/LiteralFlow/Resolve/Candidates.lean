/-!
Candidates: the values that an expression can take, in the order in which they
were found and with repetitions. None at all means that nothing is known.
-/

namespace LiteralFlow

abbrev Candidates (α : Type) := List α

namespace Candidates

def isResolved {α : Type} (candidates : Candidates α) : Bool := !candidates.isEmpty

def only? {α : Type} : Candidates α → Option α
  | [value] => some value
  | _ => none

end Candidates

end LiteralFlow
