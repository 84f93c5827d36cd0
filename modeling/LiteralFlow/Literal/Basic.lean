import LiteralFlow.Literal.Numeral
import LiteralFlow.Literal.Quoted

/-!
Constants as a program writes them. Texts are in source form: a string literal
has its quotes, an integer literal its radix.
-/

namespace LiteralFlow

inductive Literal where
  | string (source : String)
  | int (source : String)
  | float (source : String)
  | bool (value : Bool)
  | nil
deriving DecidableEq, Repr

namespace Literal

def text? : Literal → Option String
  | string source => (unquote source).toOption
  | _ => none

def integer? : Literal → Option Int
  | int source => parseInteger? source
  | _ => none

end Literal

end LiteralFlow
