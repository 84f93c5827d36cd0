import LiteralFlow.Config.Basic
import LiteralFlow.Json.Decode
import LiteralFlow.Json.Printer
import LiteralFlow.Json.Reader

/-!
Presets and configurations as JSON documents. A member of a configuration that is
left out has its default.
-/

namespace LiteralFlow

namespace Preset

/-- A preset by its name in small letters, which can also be the key of `null`. -/
def decode? (json : Json) : Option Preset := do
  let tag ← match json with
    | .object [(tag, .null)] => tag
    | _ => json.text?
  [fast, balanced, thorough, custom].find? fun preset => preset.name = tag

end Preset

namespace ResolverConfig

def depthLimit : Nat := 0x10000000000000000

def ofJson? (json : Json) : Option ResolverConfig := do
  let fields ← Json.recordFields? ["max_depth", "format_function", "join_function"] json
  let maxDepth ← fields.optional? "max_depth" default.maxDepth (Json.natBelow? depthLimit)
  let formatFunction ← fields.optional? "format_function" default.formatFunction Json.text?
  let joinFunction ← fields.optional? "join_function" default.joinFunction Json.text?
  some ⟨maxDepth, formatFunction, joinFunction⟩

def parseJson? (text : String) : Option ResolverConfig := (Json.parse? text).bind ofJson?

def encode (config : ResolverConfig) : Json :=
  .record
    [("max_depth", .nat config.maxDepth), ("format_function", .text config.formatFunction),
      ("join_function", .text config.joinFunction)]

end ResolverConfig

end LiteralFlow
