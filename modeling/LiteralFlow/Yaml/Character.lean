/-!
Classes of characters in YAML text.
-/

namespace LiteralFlow.Yaml

def isBreak (c : Char) : Bool :=
  c = '\n' || c = '\r' || c = '\u0085' || c = '\u2028' || c = '\u2029'

def isBlank (c : Char) : Bool := c = ' ' || c = '\t'

def endsToken : List Char → Bool
  | [] => true
  | c :: _ => isBlank c || isBreak c

def isPrintable (c : Char) : Bool :=
  c = '\n' || (0x20 ≤ c.toNat && c.toNat ≤ 0x7e) ||
    (0xa0 ≤ c.toNat && c.toNat ≤ 0xfffd && c.toNat ≠ 0xfeff) || 0x10000 ≤ c.toNat

def orderMark : Char := '\ufeff'

def isAllowed (c : Char) : Bool := isPrintable c || isBreak c || c = '\t' || c = orderMark

/-- The characters with a meaning of their own at the start of a token. -/
def isIndicator (c : Char) : Bool :=
  c ∈ ['-', '?', ':', ',', '[', ']', '\x7b', '\x7d', '#', '&', '*', '!', '|', '>', '\x27',
    '\x22', '%', '@', '\x60']

/-- The characters with a meaning of their own inside a flow mapping. -/
def isFlowIndicator (c : Char) : Bool := c ∈ [',', '[', ']', '\x7b', '\x7d']

end LiteralFlow.Yaml
