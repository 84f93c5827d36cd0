/-!
The integers that a resolved value can take: those of a signed word of
sixty-four bits. Arithmetic is exact, and a result outside the word is none.
-/

namespace LiteralFlow.Integer

def minimum : Int := -0x8000000000000000

def maximum : Int := 0x7fffffffffffffff

def fit? (n : Int) : Option Int :=
  if minimum ≤ n ∧ n ≤ maximum then some n else none

end LiteralFlow.Integer
