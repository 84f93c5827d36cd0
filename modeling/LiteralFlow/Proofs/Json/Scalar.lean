import LiteralFlow.Json.Printer
import LiteralFlow.Json.Reader
import LiteralFlow.Proofs.Text.Digits

/-!
Strings and natural numbers of JSON are read back as they are written, whatever
text follows. Behind a number this text must not go on with it.
-/

namespace LiteralFlow.Json

/-- A text that cannot continue a number. -/
def EndsNumber (rest : List Char) : Prop :=
  ∀ c ∈ rest.head?, c.isDigit = false ∧ c ≠ '.' ∧ c ≠ 'e' ∧ c ≠ 'E'

theorem read_digits_append {digits rest : List Char} (nonempty : digits ≠ [])
    (digit : ∀ c ∈ digits, c.isDigit = true) (ends : EndsNumber rest) :
    readDigits? (digits ++ rest) = some (digits, rest) := by
  have stop : rest.takeWhile Char.isDigit = [] ∧ rest.dropWhile Char.isDigit = rest := by
    cases rest with
    | nil => simp
    | cons c rest =>
        have other := (ends c (by simp)).1
        simp [other]
  simp only [readDigits?, List.takeWhile_append_of_pos digit, List.dropWhile_append_of_pos digit,
    stop.1, stop.2, List.append_nil]
  rw [if_neg (by simpa using nonempty)]

theorem read_whole_to_digits {n : Nat} {rest : List Char} (ends : EndsNumber rest) :
    readWhole? (Nat.toDigits 10 n ++ rest) = some (n, rest) := by
  simp only [readWhole?, read_digits_append Nat.toDigits_ne_nil Text.digits_of_nat ends,
    Option.bind_eq_bind, Option.bind_some, if_neg (Text.head_to_digits n),
    Text.read_numeral_to_digits]

theorem read_fraction_none {rest : List Char} (ends : EndsNumber rest) :
    readFraction? rest = some ([], rest) := by
  simp only [readFraction?]
  split
  · exact absurd rfl (ends '.' (by simp)).2.1
  · rfl

theorem read_exponent_none {rest : List Char} (ends : EndsNumber rest) :
    readExponent? rest = some (none, rest) := by
  simp only [readExponent?]
  split
  · exact absurd rfl (ends 'e' (by simp)).2.2.1
  · exact absurd rfl (ends 'E' (by simp)).2.2.2
  · rfl

theorem write_number_of_nat (n : Nat) : writeNumber (.ofNat n) = Nat.toDigits 10 n := by
  simp [writeNumber, JsonNumber.ofNat]

theorem read_number_of_nat {n : Nat} {rest : List Char} (ends : EndsNumber rest) :
    readNumber? (writeNumber (.ofNat n) ++ rest) = some (.ofNat n, rest) := by
  rw [write_number_of_nat]
  have read : readUnsigned? false (Nat.toDigits 10 n ++ rest) = some (.ofNat n, rest) := by
    simp only [readUnsigned?, read_whole_to_digits ends, read_fraction_none ends,
      read_exponent_none ends, Option.bind_eq_bind, Option.bind_some, JsonNumber.ofNat]
  cases digits : Nat.toDigits 10 n with
  | nil => exact absurd digits Nat.toDigits_ne_nil
  | cons c more =>
      have digit : c.isDigit = true := Text.digits_of_nat (n := n) c (by simp [digits])
      rw [digits] at read
      simp only [readNumber?]
      split
      · rename_i sign
        cases sign
        exact absurd digit (by decide)
      · exact read

theorem assemble_char (c : Char) (units : List StringUnit) :
    assemble? (.char c :: units) = (assemble? units).map (c :: ·) := by
  rw [assemble?]

/-- The code of a control character is no half of a surrogate pair. -/
theorem assemble_control {code : Nat} (control : code < 0x20) (units : List StringUnit) :
    assemble? (.code code :: units) = (assemble? units).map (Char.ofNat code :: ·) := by
  have notHigh : isHighSurrogate code = false := by
    simp only [isHighSurrogate, Bool.and_eq_false_iff, decide_eq_false_iff_not]
    omega
  have notLow : isLowSurrogate code = false := by
    simp only [isLowSurrogate, Bool.and_eq_false_iff, decide_eq_false_iff_not]
    omega
  match units with
  | [] => simp [assemble?, notHigh, notLow]
  | .char c :: units => simp [assemble?, notHigh, notLow]
  | .code low :: units => simp [assemble?, notHigh, notLow]

theorem read_units_escape {e c : Char} (escape : escapedChar? e = some c) (tail : List Char) :
    readUnits? ('\\' :: e :: tail) =
      (readUnits? tail).map fun (units, rest) => (.char c :: units, rest) := by
  rw [readUnits?.eq_def]
  simp only [Char.reduceEq, if_false, if_true, escape]
  cases readUnits? tail <;> rfl

theorem read_units_control {code : Nat} (control : code < 0x20) (tail : List Char) :
    readUnits? ('\\' :: 'u' :: '0' :: '0' :: Nat.digitChar (code / 16) ::
        Nat.digitChar (code % 16) :: tail) =
      (readUnits? tail).map fun (units, rest) => (.code code :: units, rest) := by
  have value : ∀ code < 0x20, Text.readNumeral? 16
      ['0', '0', Nat.digitChar (code / 16), Nat.digitChar (code % 16)] = some code := by
    decide
  simp only [readUnits?, Char.reduceEq, if_false, if_true, escapedChar?, value code control]
  cases readUnits? tail <;> rfl

theorem read_units_plain {c : Char} (quote : c ≠ '\x22') (backslash : c ≠ '\\')
    (printable : ¬ c.toNat < 0x20) (tail : List Char) :
    readUnits? (c :: tail) =
      (readUnits? tail).map fun (units, rest) => (.char c :: units, rest) := by
  rw [readUnits?.eq_def]
  simp only [if_neg quote, if_neg backslash, if_neg printable]
  cases readUnits? tail <;> rfl

/-- A written character is read as one unit, which stands for the character. -/
theorem read_escaped_char (c : Char) :
    ∃ unit, (∀ tail, readUnits? (escapeChar c ++ tail) =
        (readUnits? tail).map fun (units, rest) => (unit :: units, rest)) ∧
      ∀ units, assemble? (unit :: units) = (assemble? units).map (c :: ·) := by
  unfold escapeChar
  split
  case h_8 quote backslash _ _ _ _ _ =>
    split
    · rename_i control
      refine ⟨.code c.toNat, read_units_control control, ?_⟩
      intro units
      rw [assemble_control control, Char.ofNat_toNat]
    · rename_i printable
      exact ⟨.char c, read_units_plain quote backslash printable, assemble_char c⟩
  all_goals exact ⟨.char _, read_units_escape rfl, assemble_char _⟩

theorem read_units_end (rest : List Char) : readUnits? ('\x22' :: rest) = some ([], rest) := by
  rw [readUnits?.eq_def]
  rfl

theorem read_string_written (value : Option String) (rest : List Char) :
    ∃ text, writeString value ++ rest = '\x22' :: text ∧
      readString? text = some (value, rest) := by
  cases value with
  | none =>
      refine ⟨_, rfl, ?_⟩
      have units : readUnits? ('\\' :: 'u' :: 'd' :: '8' :: '0' :: '0' :: '\x22' :: rest) =
          some ([.code 0xd800], rest) := by
        rw [readUnits?.eq_def]
        simp only [Char.reduceEq, if_false, if_true, escapedChar?, read_units_end]
        rfl
      simp only [readString?, List.append_eq, List.cons_append, List.nil_append, units]
      rfl
  | some value =>
      have units (characters : List Char) :
          ∃ units, readUnits? (characters.flatMap escapeChar ++ '\x22' :: rest) =
            some (units, rest) ∧ assemble? units = some characters := by
        induction characters with
        | nil => exact ⟨[], read_units_end rest, rfl⟩
        | cons c characters induction =>
            obtain ⟨units, read, assembled⟩ := induction
            obtain ⟨unit, readUnit, assembledUnit⟩ := read_escaped_char c
            refine ⟨unit :: units, ?_, ?_⟩
            · rw [List.flatMap_cons, List.append_assoc, readUnit, read]
              rfl
            · rw [assembledUnit, assembled]
              rfl
      obtain ⟨units, read, assembled⟩ := units value.toList
      refine ⟨value.toList.flatMap escapeChar ++ '\x22' :: rest, by simp [writeString], ?_⟩
      simp only [readString?, read, assembled, Option.bind_eq_bind, Option.bind_some,
        Option.map_some, String.ofList_toList]

end LiteralFlow.Json
