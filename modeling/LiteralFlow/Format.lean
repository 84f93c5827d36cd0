/-!
Format strings with verbs. A verb such as `%d` prints a text that depends on its
operand, but for some verbs one placeholder stands for all operands. A format
string is emulated when placeholders can take the place of all its verbs.

A verb is found at the start of the text, behind a character other than the
percent sign, or behind one or more escapes `%%`. What stands before the percent
sign belongs to the match, so two verbs side by side are not both found.
-/

namespace LiteralFlow.Format

def placeholder? : Char → Option String
  | 'b' => some "01"
  | 'c' => some "a"
  | 't' => some "true"
  | 'T' => some "string"
  | 'e' => some "1.234000e+08"
  | 'E' => some "1.234000E+08"
  | 'p' => some "0xc0000ba000"
  | 'x' => some "1f"
  | 'd' => some "1"
  | 'f' => some "1.0"
  | _ => none

/-- The characters that can be verbs: ASCII letters, digits and the underscore. -/
def isVerb (c : Char) : Bool := c.isAlphanum || c = '_'

/-- What follows a percent sign: flags, the verb, and the text behind it. -/
structure Directive where
  flags : List Char
  verb : Char
  rest : List Char
deriving DecidableEq, Repr

namespace Directive

def plain? (flags : List Char) : List Char → Option Directive
  | [] => none
  | verb :: rest => if isVerb verb then some ⟨flags, verb, rest⟩ else none

/-- A verb behind a width. The width takes as many digits as leave a verb, so
the last digit is the verb when no other character can be. -/
def wide? (sign text : List Char) : Option Directive :=
  let digits := text.takeWhile Char.isDigit
  let rest := text.dropWhile Char.isDigit
  if digits.isEmpty then none
  else
    match plain? (sign ++ digits) rest with
    | some directive => some directive
    | none =>
        match digits.getLast? with
        | some verb =>
            if digits.length ≥ 2 then some ⟨sign ++ digits.dropLast, verb, rest⟩ else none
        | none => none

def read? (text : List Char) : Option Directive :=
  match text with
  | '-' :: tail => wide? ['-'] tail
  | '+' :: tail => plain? ['+'] tail
  | '#' :: tail => plain? ['#'] tail
  | _ => (wide? [] text).or (plain? [] text)

def ofPercent? : List Char → Option Directive
  | '%' :: tail => read? tail
  | _ => none

def source (directive : Directive) : List Char :=
  '%' :: directive.flags ++ [directive.verb]

/-- The placeholder of a directive, or its source form when it has none. -/
def replacement (directive : Directive) : List Char :=
  match placeholder? directive.verb with
  | some text => text.toList
  | none => directive.source

end Directive

def escapes : List Char → List Char
  | '%' :: '%' :: rest => '%' :: '%' :: escapes rest
  | _ => []

def dropEscapes : List Char → List Char
  | '%' :: '%' :: rest => dropEscapes rest
  | text => text

theorem escapes_append_drop_escapes (text : List Char) :
    escapes text ++ dropEscapes text = text := by
  fun_induction escapes text with
  | case1 rest ih => simp [dropEscapes, ih]
  | case2 text other =>
      rw [dropEscapes]
      · rfl
      · exact other

/-- A directive and the text before its percent sign that belongs to the match. -/
structure Match where
  lead : List Char
  directive : Directive
deriving DecidableEq, Repr

/-- The match behind a leading character or behind leading escapes. -/
def inside? : List Char → Option Match
  | [] => none
  | '%' :: '%' :: tail =>
      (Directive.ofPercent? (dropEscapes tail)).map (⟨'%' :: '%' :: escapes tail, ·⟩)
  | c :: tail => if c = '%' then none else (Directive.ofPercent? tail).map (⟨[c], ·⟩)

def matchAt? (atStart : Bool) (text : List Char) : Option Match :=
  if atStart then ((Directive.ofPercent? text).map (⟨[], ·⟩)).or (inside? text)
  else inside? text

theorem Directive.plain_length {flags text : List Char} {directive : Directive}
    (found : plain? flags text = some directive) : directive.rest.length < text.length := by
  cases text with
  | nil => cases found
  | cons verb rest =>
      simp only [plain?] at found
      split at found
      · cases found
        simp
      · cases found

theorem Directive.wide_length {sign text : List Char} {directive : Directive}
    (found : wide? sign text = some directive) : directive.rest.length < text.length := by
  have whole : (text.takeWhile Char.isDigit).length + (text.dropWhile Char.isDigit).length =
      text.length := by
    rw [← List.length_append, List.takeWhile_append_dropWhile]
  simp only [wide?] at found
  split at found
  · cases found
  · split at found
    · rename_i inner
      cases found
      have := plain_length inner
      omega
    · split at found
      · split at found
        · cases found
          simp only
          omega
        · cases found
      · cases found

theorem Directive.read_length {text : List Char} {directive : Directive}
    (found : read? text = some directive) : directive.rest.length < text.length := by
  unfold read? at found
  split at found
  · have := wide_length found
    simp only [List.length_cons]
    omega
  · have := plain_length found
    simp only [List.length_cons]
    omega
  · have := plain_length found
    simp only [List.length_cons]
    omega
  · rw [Option.or_eq_some_iff] at found
    rcases found with wide | ⟨_, plain⟩
    · exact wide_length wide
    · exact plain_length plain

theorem Directive.of_percent_length {text : List Char} {directive : Directive}
    (found : ofPercent? text = some directive) : directive.rest.length < text.length := by
  unfold ofPercent? at found
  split at found
  · have := read_length found
    simp only [List.length_cons]
    omega
  · cases found

theorem drop_escapes_length (text : List Char) : (dropEscapes text).length ≤ text.length := by
  have whole := congrArg List.length (escapes_append_drop_escapes text)
  rw [List.length_append] at whole
  omega

theorem inside_length {text : List Char} {found : Match}
    (matched : inside? text = some found) : found.directive.rest.length < text.length := by
  unfold inside? at matched
  split at matched
  · cases matched
  · rename_i tail
    simp only [Option.map_eq_some_iff] at matched
    obtain ⟨directive, read, rfl⟩ := matched
    have := Directive.of_percent_length read
    have := drop_escapes_length tail
    simp only [List.length_cons]
    omega
  · split at matched
    · cases matched
    · simp only [Option.map_eq_some_iff] at matched
      obtain ⟨directive, read, rfl⟩ := matched
      have := Directive.of_percent_length read
      simp only [List.length_cons]
      omega

theorem match_at_length {atStart : Bool} {text : List Char} {found : Match}
    (matched : matchAt? atStart text = some found) :
    found.directive.rest.length < text.length := by
  unfold matchAt? at matched
  split at matched
  · rw [Option.or_eq_some_iff] at matched
    rcases matched with first | ⟨_, rest⟩
    · simp only [Option.map_eq_some_iff] at first
      obtain ⟨directive, read, rfl⟩ := first
      exact Directive.of_percent_length read
    · exact inside_length rest
  · exact inside_length matched

/-- A text with each match replaced, from left to right and without overlap. -/
def substitute (atStart : Bool) (text : List Char) : List Char :=
  match _ : matchAt? atStart text with
  | some found =>
      found.lead ++ (found.directive.replacement ++ substitute false found.directive.rest)
  | none =>
      match text with
      | [] => []
      | c :: rest => c :: substitute false rest
termination_by text.length
decreasing_by
  · exact match_at_length ‹_›
  · simp

def hasMatch (atStart : Bool) : List Char → Bool
  | [] => false
  | c :: rest => (matchAt? atStart (c :: rest)).isSome || hasMatch false rest

/-- The text that a format string prints for every choice of operands, as far as
placeholders can show it. -/
def emulate? (format : String) : Option String :=
  let text := substitute true format.toList
  if hasMatch true text then none else some (String.ofList text)

end LiteralFlow.Format
