/-!
Byte offsets into Unicode text. Lengths and cuts count the bytes of the UTF-8
form, and a cut inside a character does not exist.
-/

namespace LiteralFlow.Text

def byteLength : List Char → Nat
  | [] => 0
  | c :: text => c.utf8Size + byteLength text

def splitBytes? : List Char → Nat → Option (List Char × List Char)
  | text, 0 => some ([], text)
  | [], _ + 1 => none
  | c :: text, offset + 1 =>
      if c.utf8Size ≤ offset + 1 then do
        let (before, after) ← splitBytes? text (offset + 1 - c.utf8Size)
        some (c :: before, after)
      else none

/-- The characters between two byte offsets. Offsets in the wrong order, behind
the end or inside a character select nothing. -/
def sliceBytes? (text : List Char) (low high : Nat) : Option (List Char) := do
  let (before, _) ← splitBytes? text high
  let (_, middle) ← splitBytes? before low
  some middle

end LiteralFlow.Text
