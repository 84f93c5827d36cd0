import LiteralFlow.Call.Basic
import LiteralFlow.Text.Cut

/-!
Patterns for names of calls. A pattern is `(Receiver).Method`, `Qualifier.Name`
or `Name`, and each part can be the wildcard `*`. One leading `*` of a receiver
is a pointer mark and does not count. The receiver `*.*` stands for every type,
and `pkg.*` for every type of a package. Text of another form matches nothing.
-/

namespace LiteralFlow

inductive PatternParts where
  | receiver (type method : List Char)
  | pair (left right : List Char)
  | single (name : List Char)
deriving DecidableEq, Repr

namespace PatternParts

def wildcard : List Char := ['*']

def anyReceiver : List Char := ['*', '.', '*']

def hasParenthesis (text : List Char) : Bool := text.any fun c => c = '(' || c = ')'

def isName (name : List Char) : Bool :=
  !name.isEmpty && !name.contains '.' && !hasParenthesis name

/-- A receiver is a wildcard or a type. A pointer mark has to stand before a
type, so `*.T` is none. -/
def isReceiver (type : List Char) : Bool :=
  if type = wildcard ∨ type = anyReceiver then true
  else
    match type with
    | [] => false
    | '*' :: pointee =>
        match pointee with
        | [] => false
        | c :: _ => c ≠ '.' && c ≠ '*'
    | _ => true

def read? (text : List Char) : Option PatternParts :=
  match text with
  | [] => none
  | '(' :: rest =>
      match Text.cutLast? [')', '.'] rest with
      | some (type, method) =>
          if isReceiver type && isName method then some (.receiver type method) else none
      | none => none
  | _ =>
      if hasParenthesis text then none
      else
        match Text.cutLast? ['.'] text with
        | some (left, right) =>
            if !left.isEmpty && isName right then some (.pair left right) else none
        | none => some (.single text)

def count : PatternParts → Nat
  | receiver .. => 2
  | pair .. => 2
  | single _ => 1

def matchesPart (pattern actual : List Char) : Bool := pattern = wildcard || pattern = actual

def dropPointer : List Char → List Char
  | '*' :: pointee => pointee
  | type => type

/-- Whether a pattern `pkg.*` stands for a type of the same package. -/
def matchesPackage (pattern actual : List Char) : Bool :=
  match Text.cutLast? ['.'] pattern, Text.cutLast? ['.'] actual with
  | some (patternPackage, last), some (actualPackage, _) =>
      last = wildcard && patternPackage = actualPackage
  | _, _ => false

def matchesReceiver (pattern actual : List Char) : Bool :=
  pattern = wildcard || pattern = anyReceiver ||
    dropPointer pattern = dropPointer actual ||
      matchesPackage (dropPointer pattern) (dropPointer actual)

def matchesShape : PatternParts → NameShape → Bool
  | receiver type method, .method actualType name _ =>
      matchesReceiver type actualType.toList && matchesPart method name.toList
  | pair left right, .method actualType name _ =>
      matchesReceiver left actualType.toList && matchesPart right name.toList
  | pair left right, .function package name =>
      matchesPart left package.toList && matchesPart right name.toList
  | single pattern, .builtin name => matchesPart pattern name.toList
  | _, _ => false

end PatternParts

structure CallPattern where
  source : String
  parts? : Option PatternParts
deriving DecidableEq, Repr

namespace CallPattern

def parse (source : String) : CallPattern := ⟨source, PatternParts.read? source.toList⟩

def isValid (pattern : CallPattern) : Bool := pattern.parts?.isSome

def isFunctionShaped (pattern : CallPattern) : Bool :=
  match pattern.parts? with
  | some (.pair ..) => true
  | _ => false

def partCount (pattern : CallPattern) : Nat := (pattern.parts?.map PatternParts.count).getD 0

def accepts (pattern : CallPattern) (call : ClassifiedCall) : Bool :=
  match pattern.parts?, call.target.shape? with
  | some parts, some shape => parts.matchesShape shape
  | _, _ => false

end CallPattern

end LiteralFlow
