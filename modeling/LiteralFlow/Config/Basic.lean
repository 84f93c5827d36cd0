import LiteralFlow.Call.Pattern
import LiteralFlow.Config.Error
import LiteralFlow.Config.Preset

/-!
Configurations of the resolvers: a depth bound, and the patterns of the two
calls whose result is computed from their arguments.
-/

namespace LiteralFlow

structure ResolverConfig where
  maxDepth : Nat
  formatFunction : String
  joinFunction : String
deriving DecidableEq, Repr

namespace ResolverConfig

def ofPreset (preset : Preset) : ResolverConfig :=
  { maxDepth := preset.maxDepth, formatFunction := "fmt.Sprintf", joinFunction := "strings.Join" }

def default : ResolverConfig := ofPreset .balanced

def validatePattern (field pattern : String) : Except ConfigError Unit :=
  if (CallPattern.parse pattern).isFunctionShaped then .ok ()
  else .error (.invalidPattern field pattern)

/-- Refuses a configuration that no resolver can use: first for its depth, then
for each pattern. -/
def validate (config : ResolverConfig) : Except ConfigError Unit :=
  if config.maxDepth = 0 ∨ 1000 < config.maxDepth then
    .error (.range "max_depth" (toString config.maxDepth) 1 1000
      "Recursion depth must be at least 1")
  else do
    validatePattern "format_function" config.formatFunction
    validatePattern "join_function" config.joinFunction

def title : String := "ResolverConfig"

end ResolverConfig

end LiteralFlow
