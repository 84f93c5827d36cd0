import LiteralFlow.Call.Basic
import LiteralFlow.Config.Error
import LiteralFlow.Graph.Basic

/-!
All that the operations on graphs, calls and configurations can fail with.
-/

namespace LiteralFlow

inductive Error where
  | argument (cause : ArgumentError)
  | graph (cause : GraphError)
  /-- Text that is not the document of a graph. -/
  | document
  | config (cause : ConfigError)
deriving DecidableEq, Repr

namespace Error

def message : Error → String
  | argument cause =>
      s!"Argument index {cause.index} out of range for call with {cause.count} argument(s)"
  | graph cause => s!"Graph error: {cause.message}"
  | document => "JSON error"
  | config cause => s!"Configuration error: {cause.message}"

end Error

end LiteralFlow
