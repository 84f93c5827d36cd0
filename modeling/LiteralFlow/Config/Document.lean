import LiteralFlow.Config.Basic
import LiteralFlow.Config.Decode
import LiteralFlow.Yaml.Reader
import LiteralFlow.Yaml.Writer

/-!
Configurations as YAML documents: a format version, a preset, and the fields in
which the configuration differs from the preset.
-/

namespace LiteralFlow.ResolverConfig

def supportedVersion : Nat := 1

def versionLimit : Nat := 0x100000000

/-- The entries of a mapping, if each has one of `keys` and none is repeated. -/
def knownEntries? (keys : List String) (entries : List (Yaml.Scalar × Yaml.Node)) :
    Option (List (String × Yaml.Node)) :=
  let named := entries.map fun (key, value) => (String.ofList key.text, value)
  let names := named.map (·.1)
  if names.all (· ∈ keys) && names.Nodup then some named else none

/-- The value of an entry that may be missing, or null if it is plain. -/
def optionalField? {α : Type} (decode? : Yaml.Scalar → Option α)
    (entries : List (String × Yaml.Node)) (key : String) : Option (Option α) :=
  match entries.lookup key with
  | none => some none
  | some (.mapping _) => none
  | some (.scalar value) =>
      if value.plain && Yaml.Plain.isNull value.text then some none
      else (decode? value).map some

def scalarBelow? (limit : Nat) (value : Yaml.Scalar) : Option Nat :=
  if value.plain then Yaml.Plain.natBelow? limit value.text else none

def scalarText? (value : Yaml.Scalar) : Option String := some (String.ofList value.text)

structure Overrides where
  maxDepth : Option Nat
  formatFunction : Option String
  joinFunction : Option String
deriving DecidableEq, Repr

namespace Overrides

def none : Overrides := ⟨.none, .none, .none⟩

def ofEntries? (entries : List (Yaml.Scalar × Yaml.Node)) : Option Overrides := do
  let entries ← knownEntries? ["max_depth", "format_function", "join_function"] entries
  let maxDepth ← optionalField? (scalarBelow? depthLimit) entries "max_depth"
  let formatFunction ← optionalField? scalarText? entries "format_function"
  let joinFunction ← optionalField? scalarText? entries "join_function"
  some ⟨maxDepth, formatFunction, joinFunction⟩

def apply (overrides : Overrides) (config : ResolverConfig) : ResolverConfig :=
  { maxDepth := overrides.maxDepth.getD config.maxDepth
    formatFunction := overrides.formatFunction.getD config.formatFunction
    joinFunction := overrides.joinFunction.getD config.joinFunction }

end Overrides

structure Document where
  version : Nat
  preset : String
  overrides : Overrides
deriving DecidableEq, Repr

namespace Document

def version? (entries : List (String × Yaml.Node)) : Option Nat :=
  match entries.lookup "version" with
  | some (.scalar value) => scalarBelow? versionLimit value
  | _ => none

/-- The name of the preset: any scalar by its text. -/
def preset? (entries : List (String × Yaml.Node)) : Option String :=
  match entries.lookup "preset" with
  | some (.scalar value) => scalarText? value
  | some (.mapping _) => none
  | none => some Preset.balanced.name

def overrides? (entries : List (String × Yaml.Node)) : Option Overrides :=
  match entries.lookup "resolver" with
  | some (.mapping entries) => Overrides.ofEntries? entries
  | some (.scalar value) =>
      if value.plain && Yaml.Plain.isNull value.text then some .none else none
  | none => some .none

def parse? (text : String) : Option Document := do
  let entries ← knownEntries? ["version", "preset", "resolver"] (← Yaml.parse? text)
  some ⟨← version? entries, ← preset? entries, ← overrides? entries⟩

/-- The configuration that a document describes. The version is looked at first,
then the preset, and last the configuration as a whole. -/
def toConfig (document : Document) : Except ConfigError ResolverConfig :=
  if document.version ≠ supportedVersion then
    .error (.unsupportedVersion document.version [supportedVersion])
  else
    match Preset.ofName? document.preset with
    | none => .error (.unknownPreset document.preset)
    | some preset => do
        let config := document.overrides.apply (ofPreset preset)
        config.validate
        .ok config

end Document

def parseYaml (text : String) : Except ConfigError ResolverConfig :=
  match Document.parse? text with
  | none => .error .malformed
  | some document => document.toConfig

/-- Reads a valid configuration from the content of a file, which is missing if
there is no such file. -/
def load (content : Option ByteArray) : Except ConfigError ResolverConfig :=
  match content.bind String.fromUTF8? with
  | none => .error .unreadable
  | some text => parseYaml text

def renderYaml (config : ResolverConfig) : String :=
  s!"version: {supportedVersion}\npreset: {Preset.custom.name}\nresolver:\n" ++
    s!"  max_depth: {config.maxDepth}\n" ++
    "  format_function: " ++ String.ofList (Yaml.writeScalar config.formatFunction.toList) ++
    "  join_function: " ++ String.ofList (Yaml.writeScalar config.joinFunction.toList)

end LiteralFlow.ResolverConfig
