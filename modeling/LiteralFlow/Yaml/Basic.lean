/-!
The part of YAML in which configurations are written: scalars, and mappings
with scalar keys.
-/

namespace LiteralFlow.Yaml

/-- A scalar by its text. Only a plain one, without quotes and not a block, can
stand for null or for a number. -/
structure Scalar where
  plain : Bool
  text : List Char
deriving DecidableEq, Repr

/-- What stands for a value that is left out. -/
def Scalar.empty : Scalar := ⟨true, []⟩

inductive Node where
  | scalar (value : Scalar)
  | mapping (entries : List (Scalar × Node))
deriving Repr

end LiteralFlow.Yaml
