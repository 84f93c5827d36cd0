import LiteralFlow.Yaml.Character
import LiteralFlow.Yaml.Plain

/-!
Writing text as a scalar that reads back as the same text: plain if that is
possible, else between single quotes, else between double quotes with escapes.
Text of several lines becomes a literal block if it can.
-/

namespace LiteralFlow.Yaml

def hasPair (first second : Char → Bool) : List Char → Bool
  | a :: b :: text => (first a && second b) || hasPair first second (b :: text)
  | _ => false

def isSpace (c : Char) : Bool := c = ' '

/-- Whether every character can be written as itself and no line ends in a
space, so that unescaped lines keep the text. -/
def isLineable (text : List Char) : Bool :=
  text.all isPrintable && !hasPair isSpace isBreak text

/-- Whether a plain scalar would end inside the text: at a colon before a blank
or at a number sign after one. -/
def hasPlainEnd : List Char → Bool
  | ':' :: [] => true
  | c :: d :: text =>
      (c = ':' && (isBlank d || isBreak d)) || ((isBlank c || isBreak c) && d = '#') ||
        hasPlainEnd (d :: text)
  | _ => false

def startsOtherToken : List Char → Bool
  | '-' :: '-' :: '-' :: _ => true
  | '.' :: '.' :: '.' :: _ => true
  | c :: text =>
      if c = '-' ∨ c = '?' ∨ c = ':' then endsToken text else isIndicator c
  | [] => true

def allowsPlain (text : List Char) : Bool :=
  isLineable text && !text.any isBreak && text.head? ≠ some ' ' && text.getLast? ≠ some ' ' &&
    !startsOtherToken text && !hasPlainEnd text

def allowsSingle (text : List Char) : Bool :=
  isLineable text && !hasPair isBreak isSpace text

def allowsLiteral (text : List Char) : Bool :=
  isLineable text && text.getLast? ≠ some ' '

inductive Style where
  | plain
  | single
  | double
  | literal
deriving DecidableEq, Repr

def styleOf (text : List Char) : Style :=
  if '\n' ∈ text then
    if allowsLiteral text then .literal else .double
  else if !Plain.isTyped text && allowsPlain text then .plain
  else if allowsSingle text then .single
  else .double

def bodyIndent : List Char := [' ', ' ', ' ', ' ']

/-- The body of a single-quoted scalar. The first character after a line break,
or the closing quote, is indented. -/
def singleBody : Bool → List Char → List Char
  | afterBreak, [] => if afterBreak then bodyIndent else []
  | afterBreak, c :: text =>
      if isBreak c then c :: singleBody true text
      else
        (if afterBreak then bodyIndent else []) ++
          (if c = '\x27' then ['\x27', '\x27'] else [c]) ++ singleBody false text

/-- The last `width` hexadecimal digits of a number, letters as capitals. -/
def hexDigits : Nat → Nat → List Char
  | 0, _ => []
  | width + 1, value => hexDigits width (value / 16) ++ [(Nat.digitChar (value % 16)).toUpper]

def escapeChar (c : Char) : List Char :=
  match c with
  | '\x00' => ['\\', '0']
  | '\x07' => ['\\', 'a']
  | '\x08' => ['\\', 'b']
  | '\t' => ['\\', 't']
  | '\n' => ['\\', 'n']
  | '\x0b' => ['\\', 'v']
  | '\x0c' => ['\\', 'f']
  | '\r' => ['\\', 'r']
  | '\x1b' => ['\\', 'e']
  | '\x22' => ['\\', '\x22']
  | '\\' => ['\\', '\\']
  | '\u0085' => ['\\', 'N']
  | '\u2028' => ['\\', 'L']
  | '\u2029' => ['\\', 'P']
  | _ =>
      if isPrintable c then [c]
      else if c.toNat ≤ 0xff then '\\' :: 'x' :: hexDigits 2 c.toNat
      else if c.toNat ≤ 0xffff then '\\' :: 'u' :: hexDigits 4 c.toNat
      else '\\' :: 'U' :: hexDigits 8 c.toNat

/-- The indicator of a block after its style: the indentation if the text begins
with a blank line or a space, and what becomes of the final line breaks. -/
def literalHeader (text : List Char) : List Char :=
  (match text with
  | c :: _ => if isSpace c || isBreak c then ['2'] else []
  | [] => []) ++
    match text.reverse with
    | [] => ['-']
    | [c] => if isBreak c then ['+'] else ['-']
    | c :: d :: _ => if !isBreak c then ['-'] else if isBreak d then ['+'] else []

def literalBody : Bool → List Char → List Char
  | lineStart, [] => if lineStart then [] else ['\n']
  | lineStart, c :: text =>
      if isBreak c then c :: literalBody true text
      else (if lineStart then bodyIndent else []) ++ c :: literalBody false text

/-- Text as the value of an entry of the nested mapping, with the line break
after it. -/
def writeScalar (text : List Char) : List Char :=
  match styleOf text with
  | .plain => text ++ ['\n']
  | .single => '\x27' :: singleBody false text ++ ['\x27', '\n']
  | .double => '\x22' :: text.flatMap escapeChar ++ ['\x22', '\n']
  | .literal => '|' :: literalHeader text ++ '\n' :: literalBody true text

end LiteralFlow.Yaml
