/-!
Presets: named depth bounds.
-/

namespace LiteralFlow

inductive Preset where
  | fast
  | balanced
  | thorough
  | custom
deriving DecidableEq, Repr

namespace Preset

def name : Preset → String
  | fast => "fast"
  | balanced => "balanced"
  | thorough => "thorough"
  | custom => "custom"

def maxDepth : Preset → Nat
  | fast => 5
  | balanced => 10
  | thorough => 32
  | custom => 10

/-- The preset of a name in any case. Letters outside ASCII have no small form
that occurs in a name, so ASCII case is enough. -/
def ofName? (name : String) : Option Preset :=
  [fast, balanced, thorough, custom].find? fun preset =>
    preset.name.toList = name.toList.map Char.toLower

end Preset

end LiteralFlow
