/-!
Why a configuration is refused.
-/

namespace LiteralFlow

inductive ConfigError where
  /-- A field outside the range that it can take. -/
  | range (field value : String) (minimum maximum : Int) (hint : String)
  | unsupportedVersion (found : Nat) (supported : List Nat)
  | unknownPreset (name : String)
  /-- A field whose pattern cannot match a package function. -/
  | invalidPattern (field pattern : String)
  /-- A file that cannot be read as text. -/
  | unreadable
  /-- Text that is not a configuration document. -/
  | malformed
deriving DecidableEq, Repr

namespace ConfigError

def message : ConfigError → String
  | range field value minimum maximum hint =>
      s!"Invalid range for field '{field}': {value} not in {minimum}..={maximum}. {hint}"
  | unsupportedVersion found supported =>
      let versions := ", ".intercalate (supported.map toString)
      s!"Unsupported configuration version {found}. Supported versions: {versions}"
  | unknownPreset name =>
      s!"Unknown preset '{name}'. Valid presets: fast, balanced, thorough, custom"
  | invalidPattern field pattern => s!"Invalid call pattern for '{field}': '{pattern}'"
  | unreadable => "IO error"
  | malformed => "YAML parsing error"

end ConfigError

end LiteralFlow
