import LiteralFlow.Json.Basic

/-!
Writing JSON text, in one line or with one member or item a line. A writer puts
its text before the text that follows.
-/

namespace LiteralFlow.Json

def escapeChar (c : Char) : List Char :=
  match c with
  | '\x22' => ['\\', '\x22']
  | '\\' => ['\\', '\\']
  | '\x08' => ['\\', 'b']
  | '\x0c' => ['\\', 'f']
  | '\n' => ['\\', 'n']
  | '\r' => ['\\', 'r']
  | '\t' => ['\\', 't']
  | _ =>
      if c.toNat < 0x20 then
        ['\\', 'u', '0', '0', Nat.digitChar (c.toNat / 16), Nat.digitChar (c.toNat % 16)]
      else [c]

/-- A string between quotes. One that is no text is written as an escape that is
half of a surrogate pair. -/
def writeString : Option String → List Char
  | some text => '\x22' :: text.toList.flatMap escapeChar ++ ['\x22']
  | none => ['\x22', '\\', 'u', 'd', '8', '0', '0', '\x22']

def writeNumber (number : JsonNumber) : List Char :=
  (if number.negative then ['-'] else []) ++ Nat.toDigits 10 number.whole ++
    (if number.fraction.isEmpty then [] else '.' :: number.fraction) ++
      (match number.exponent with
      | none => []
      | some exponent => 'e' :: (toString exponent).toList)

def writeScalar : Json → List Char
  | null => ['n', 'u', 'l', 'l']
  | bool true => ['t', 'r', 'u', 'e']
  | bool false => ['f', 'a', 'l', 's', 'e']
  | number value => writeNumber value
  | string value => writeString value
  | array _ => []
  | object _ => []

mutual

def compact : Json → List Char → List Char
  | array items, rest => '[' :: compactItems items (']' :: rest)
  | object members, rest => '\x7b' :: compactMembers members ('\x7d' :: rest)
  | value, rest => writeScalar value ++ rest

def compactItems : List Json → List Char → List Char
  | [], rest => rest
  | [item], rest => compact item rest
  | item :: items, rest => compact item (',' :: compactItems items rest)

def compactMembers : List (Option String × Json) → List Char → List Char
  | [], rest => rest
  | [(key, value)], rest => writeString key ++ ':' :: compact value rest
  | (key, value) :: members, rest =>
      writeString key ++ ':' :: compact value (',' :: compactMembers members rest)

end

def newLine (level : Nat) : List Char := '\n' :: List.replicate (2 * level) ' '

mutual

/-- A value with one member or item a line, inside `level` others and before
`rest`. -/
def pretty (level : Nat) : Json → List Char → List Char
  | array [], rest => '[' :: ']' :: rest
  | array (item :: items), rest =>
      '[' :: prettyItems (level + 1) (item :: items) (newLine level ++ ']' :: rest)
  | object [], rest => '\x7b' :: '\x7d' :: rest
  | object (member :: members), rest =>
      '\x7b' :: prettyMembers (level + 1) (member :: members) (newLine level ++ '\x7d' :: rest)
  | value, rest => writeScalar value ++ rest

def prettyItems (level : Nat) : List Json → List Char → List Char
  | [], rest => rest
  | [item], rest => newLine level ++ pretty level item rest
  | item :: items, rest => newLine level ++ pretty level item (',' :: prettyItems level items rest)

def prettyMembers (level : Nat) : List (Option String × Json) → List Char → List Char
  | [], rest => rest
  | [(key, value)], rest =>
      newLine level ++ writeString key ++ ':' :: ' ' :: pretty level value rest
  | (key, value) :: members, rest =>
      newLine level ++ writeString key ++
        ':' :: ' ' :: pretty level value (',' :: prettyMembers level members rest)

end

def toCompactText (value : Json) : String := String.ofList (value.compact [])

def toPrettyText (value : Json) : String := String.ofList (value.pretty 0 [])

end LiteralFlow.Json
