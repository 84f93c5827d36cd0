import LiteralFlow.Literal.Quoted
import LiteralFlow.Proofs.Text.Digits

/-!
The grammar of quoted bodies. A body is divided into the spellings of its units in
at most one way, and reading finds this division whenever there is one.
-/

namespace LiteralFlow.Literal

/-- The letters that stand behind a backslash for one character, whatever the
quotes. -/
def letterEscapes : List (Char × Char) :=
  [('a', '\x07'), ('b', '\x08'), ('f', '\x0c'), ('n', '\n'), ('r', '\r'), ('t', '\t'),
    ('v', '\x0b'), ('\\', '\\')]

/-- The spellings of one unit between the marks `quote`. -/
inductive Spells (quote : Char) : List Char → QuotedUnit → Prop where
  | plain {c : Char} (notQuote : c ≠ quote) (notBackslash : c ≠ '\\') (notBreak : c ≠ '\n') :
      Spells quote [c] (.char c)
  | letter {letter c : Char} (listed : (letter, c) ∈ letterEscapes) :
      Spells quote ['\\', letter] (.char c)
  | mark : Spells quote ['\\', quote] (.char quote)
  | hexadecimal {digits : List Char} {value : UInt8} (width : digits.length = 2)
      (numeral : Text.IsNumeral 16 digits value.toNat) :
      Spells quote ('\\' :: 'x' :: digits) (.byte value)
  /-- Three octal digits can go beyond a byte, and then they spell nothing. -/
  | octal {digits : List Char} {value : UInt8} (width : digits.length = 3)
      (numeral : Text.IsNumeral 8 digits value.toNat) :
      Spells quote ('\\' :: digits) (.byte value)
  | short {digits : List Char} {c : Char} (width : digits.length = 4)
      (numeral : Text.IsNumeral 16 digits c.toNat) :
      Spells quote ('\\' :: 'u' :: digits) (.char c)
  | long {digits : List Char} {c : Char} (width : digits.length = 8)
      (numeral : Text.IsNumeral 16 digits c.toNat) :
      Spells quote ('\\' :: 'U' :: digits) (.char c)

/-- A division of a body into units, each with its spelling. -/
structure Divides (quote : Char) (body : List Char) (parts : List (List Char × QuotedUnit)) :
    Prop where
  joined : parts.flatMap Prod.fst = body
  spelled : ∀ part ∈ parts, Spells quote part.1 part.2

def IsEscapingMark (quote : Char) : Prop := quote = Quote.double.mark ∨ quote = Quote.single.mark

variable {quote : Char} {text front tail : List Char} {unit : QuotedUnit}

theorem scalar_eq_some_iff {n : Nat} {c : Char} : scalar? n = some c ↔ c.toNat = n := by
  simp only [scalar?]
  constructor
  · intro found
    split at found
    · rename_i valid
      cases found
      rw [Char.ofNat, dif_pos valid]
      rfl
    · cases found
  · intro same
    have valid : c.toNat.isValidChar := c.valid
    rw [← same, if_pos valid, Char.ofNat_toNat]

theorem scalar_to_nat (c : Char) : scalar? c.toNat = some c :=
  scalar_eq_some_iff.mpr rfl

theorem letter_escape_eq_some_iff (mark : IsEscapingMark quote) {letter c : Char} :
    letterEscape? quote letter = some c ↔
      (letter, c) ∈ letterEscapes ∨ (letter = quote ∧ c = quote) := by
  have unlisted : quote ∉ letterEscapes.map Prod.fst := by
    rcases mark with rfl | rfl <;> decide
  simp only [letterEscape?, letterEscapes, List.mem_cons, Prod.mk.injEq, List.not_mem_nil,
    or_false, List.map_cons, List.map_nil, not_or] at unlisted ⊢
  split
  all_goals grind

theorem byte_value {value : Nat} (small : value ≤ 255) : value.toUInt8.toNat = value :=
  UInt8.toNat_ofNat_of_lt' (Nat.lt_succ_of_le small)

theorem escaped_unit_sound (mark : IsEscapingMark quote)
    (read : escapedUnit? quote text = some (unit, tail)) :
    ∃ front, text = front ++ tail ∧ Spells quote ('\\' :: front) unit := by
  unfold escapedUnit? at read
  split at read
  · cases read
  · rename_i letter rest
    split at read
    · rename_i c found
      cases read
      refine ⟨[letter], rfl, ?_⟩
      rcases (letter_escape_eq_some_iff mark).mp found with listed | ⟨rfl, rfl⟩
      · exact .letter listed
      · exact .mark
    · split at read
      all_goals
        simp only [Option.bind_eq_bind, Option.bind_eq_some_iff, Prod.exists,
          scalar_eq_some_iff] at read
      case h_1 =>
        obtain ⟨value, _, taken, same⟩ := read
        obtain ⟨digits, rfl, width, numeral⟩ := Text.eq_of_take_numeral (by decide) taken
        cases same
        have small := Text.numeral_lt (by decide) numeral
        rw [width] at small
        refine ⟨'x' :: digits, rfl, .hexadecimal width ?_⟩
        rwa [byte_value (Nat.le_of_lt_succ small)]
      case h_2 =>
        obtain ⟨value, _, taken, c, rfl, same⟩ := read
        obtain ⟨digits, rfl, width, numeral⟩ := Text.eq_of_take_numeral (by decide) taken
        cases same
        exact ⟨'u' :: digits, rfl, .short width numeral⟩
      case h_3 =>
        obtain ⟨value, _, taken, c, rfl, same⟩ := read
        obtain ⟨digits, rfl, width, numeral⟩ := Text.eq_of_take_numeral (by decide) taken
        cases same
        exact ⟨'U' :: digits, rfl, .long width numeral⟩
      case h_4 =>
        obtain ⟨value, _, taken, same⟩ := read
        obtain ⟨digits, joined, width, numeral⟩ := Text.eq_of_take_numeral (by decide) taken
        split at same
        · rename_i small
          cases same
          refine ⟨digits, joined, .octal width ?_⟩
          rwa [byte_value small]
        · cases same

/-- A letter that is neither listed nor the mark leaves the escape to its digits. -/
theorem letter_escape_eq_none (mark : IsEscapingMark quote) {letter : Char}
    (unlisted : letter ∉ letterEscapes.map Prod.fst) (notMark : letter ≠ quote) :
    letterEscape? quote letter = none := by
  cases found : letterEscape? quote letter with
  | none => rfl
  | some c =>
      rcases (letter_escape_eq_some_iff mark).mp found with listed | ⟨same, -⟩
      · exact absurd (List.mem_map_of_mem listed) unlisted
      · exact absurd same notMark

theorem octal_digit_unlisted {c : Char} {value : Nat} (mark : IsEscapingMark quote)
    (digit : Text.IsDigit 8 c value) :
    c ∉ letterEscapes.map Prod.fst ∧ c ≠ quote ∧ c ≠ 'x' ∧ c ≠ 'u' ∧ c ≠ 'U' := by
  rcases digit with ⟨small, rfl | rfl⟩
  all_goals
    rcases mark with rfl | rfl
    all_goals
      revert value
      decide

theorem escaped_unit_complete (mark : IsEscapingMark quote)
    (spelled : Spells quote ('\\' :: front) unit) (tail : List Char) :
    escapedUnit? quote (front ++ tail) = some (unit, tail) := by
  have digitsLeft (letter : Char) (unlisted : letter ∉ letterEscapes.map Prod.fst)
      (apart : letter ≠ Quote.double.mark ∧ letter ≠ Quote.single.mark) :
      letterEscape? quote letter = none := by
    apply letter_escape_eq_none mark unlisted
    rcases mark with rfl | rfl
    · exact apart.1
    · exact apart.2
  cases spelled with
  | plain _ notBackslash _ => exact absurd rfl notBackslash
  | letter listed =>
      have found := (letter_escape_eq_some_iff mark).mpr (.inl listed)
      simp only [List.cons_append, List.nil_append, escapedUnit?, found]
  | mark =>
      have found := (letter_escape_eq_some_iff mark).mpr (.inr ⟨rfl, rfl⟩)
      simp only [List.cons_append, List.nil_append, escapedUnit?, found]
  | hexadecimal width numeral =>
      have taken := Text.take_numeral_append (by decide) numeral tail
      have unlisted := digitsLeft 'x' (by decide) (by decide)
      rw [width] at taken
      simp [escapedUnit?, unlisted, taken]
  | @octal digits value width numeral =>
      have taken := Text.take_numeral_append (by decide) numeral tail
      rw [width] at taken
      obtain ⟨_, each, -⟩ := numeral
      cases each with
      | nil => cases width
      | cons digit _ =>
        obtain ⟨unlisted, apart, notX, notShort, notLong⟩ := octal_digit_unlisted mark digit
        have notLetter := letter_escape_eq_none mark unlisted apart
        have small : value.toNat ≤ 255 := Nat.le_of_lt_succ value.toNat_lt
        rw [List.cons_append] at taken ⊢
        simp [escapedUnit?, notLetter, taken, small]
  | short width numeral =>
      have taken := Text.take_numeral_append (by decide) numeral tail
      have unlisted := digitsLeft 'u' (by decide) (by decide)
      rw [width] at taken
      simp [escapedUnit?, unlisted, taken, scalar_to_nat]
  | long width numeral =>
      have taken := Text.take_numeral_append (by decide) numeral tail
      have unlisted := digitsLeft 'U' (by decide) (by decide)
      rw [width] at taken
      simp [escapedUnit?, unlisted, taken, scalar_to_nat]

theorem next_unit_sound (mark : IsEscapingMark quote) {first : Char} {rest : List Char}
    (read : nextUnit quote first rest = .ok (unit, tail)) :
    ∃ front, first :: rest = front ++ tail ∧ Spells quote front unit := by
  unfold nextUnit at read
  split at read
  · cases read
  · rename_i delimiter
    split at read
    · rename_i backslash
      split at read
      · rename_i step found
        cases read
        obtain ⟨front, rfl, spelled⟩ := escaped_unit_sound mark found
        exact ⟨'\\' :: front, by rw [backslash]; rfl, spelled⟩
      · cases read
    · rename_i backslash
      cases read
      exact ⟨[first], rfl, .plain (fun same => delimiter (.inl same)) backslash
        (fun same => delimiter (.inr same))⟩

theorem next_unit_complete (mark : IsEscapingMark quote) (spelled : Spells quote front unit)
    (tail : List Char) :
    ∃ first rest, front ++ tail = first :: rest ∧ nextUnit quote first rest = .ok (unit, tail) := by
  have escaped {front : List Char} (spelled : Spells quote ('\\' :: front) unit) :
      ∃ first rest, '\\' :: front ++ tail = first :: rest ∧
        nextUnit quote first rest = .ok (unit, tail) := by
    refine ⟨'\\', front ++ tail, rfl, ?_⟩
    have backslash : ¬ ('\\' = quote ∨ '\\' = '\n') := by
      rcases mark with rfl | rfl <;> decide
    simp only [nextUnit, if_neg backslash, escaped_unit_complete mark spelled, if_true]
  cases spelled with
  | plain notQuote notBackslash notBreak =>
      refine ⟨_, tail, rfl, ?_⟩
      simp only [nextUnit, notQuote, notBreak, notBackslash, or_self, if_false]
  | letter listed => exact escaped (.letter listed)
  | mark => exact escaped .mark
  | hexadecimal width numeral => exact escaped (.hexadecimal width numeral)
  | octal width numeral => exact escaped (.octal width numeral)
  | short width numeral => exact escaped (.short width numeral)
  | long width numeral => exact escaped (.long width numeral)

namespace Divides

variable {body : List Char} {part : List Char × QuotedUnit}
  {parts parts' : List (List Char × QuotedUnit)}

theorem nil : Divides quote [] [] := ⟨rfl, by simp⟩

theorem cons (spelled : Spells quote front unit) (divided : Divides quote tail parts) :
    Divides quote (front ++ tail) ((front, unit) :: parts) := by
  refine ⟨by rw [List.flatMap_cons, divided.joined], ?_⟩
  intro part member
  rcases List.mem_cons.mp member with rfl | later
  · exact spelled
  · exact divided.spelled part later

theorem head (divided : Divides quote body (part :: parts)) :
    ∃ tail, body = part.1 ++ tail ∧ Spells quote part.1 part.2 ∧ Divides quote tail parts := by
  refine ⟨parts.flatMap Prod.fst, ?_, divided.spelled part List.mem_cons_self, rfl, ?_⟩
  · rw [← divided.joined, List.flatMap_cons]
  · intro other member
    exact divided.spelled other (List.mem_cons_of_mem part member)

/-- Only the empty body has no units. -/
theorem eq_nil (mark : IsEscapingMark quote) (divided : Divides quote [] parts) : parts = [] := by
  cases parts with
  | nil => rfl
  | cons part parts =>
      obtain ⟨tail, joined, spelled, -⟩ := divided.head
      obtain ⟨first, rest, starts, -⟩ := next_unit_complete mark spelled tail
      rw [← joined] at starts
      cases starts

/-- A body is divided into units in one way only. -/
theorem unique (mark : IsEscapingMark quote) (divided : Divides quote body parts)
    (divided' : Divides quote body parts') : parts = parts' := by
  induction parts generalizing body parts' with
  | nil =>
      rw [← divided.joined] at divided'
      exact (divided'.eq_nil mark).symm
  | cons part parts induction =>
      cases parts' with
      | nil =>
          rw [← divided'.joined] at divided
          exact absurd (divided.eq_nil mark) (List.cons_ne_nil part parts)
      | cons part' parts' =>
          obtain ⟨tail, joined, spelled, rest⟩ := divided.head
          obtain ⟨tail', joined', spelled', rest'⟩ := divided'.head
          obtain ⟨first, after, starts, read⟩ := next_unit_complete mark spelled tail
          obtain ⟨first', after', starts', read'⟩ := next_unit_complete mark spelled' tail'
          rw [← joined] at starts
          rw [← joined', starts] at starts'
          cases starts'
          rw [read] at read'
          obtain ⟨sameUnit, rfl⟩ := Prod.mk.inj (Except.ok.inj read')
          have sameText := List.append_cancel_right (joined.symm.trans joined')
          rw [Prod.ext sameText sameUnit, induction rest rest']

end Divides

theorem read_units_step {first : Char} {rest : List Char} {units : List QuotedUnit}
    (read : nextUnit quote first rest = .ok (unit, tail))
    (later : readUnits quote tail = .ok units) :
    readUnits quote (first :: rest) = .ok (unit :: units) := by
  rw [readUnits]
  split
  · rename_i failed
    rw [read] at failed
    cases failed
  · rename_i found
    rw [read] at found
    cases found
    rw [later]

/-- Reading finds the units of a body exactly when the body can be divided. -/
theorem read_units_eq_ok_iff (mark : IsEscapingMark quote) {body : List Char}
    {units : List QuotedUnit} :
    readUnits quote body = .ok units ↔
      ∃ parts, Divides quote body parts ∧ parts.map Prod.snd = units := by
  constructor
  · intro read
    fun_induction readUnits quote body generalizing units with
    | case1 =>
        cases read
        exact ⟨[], .nil, rfl⟩
    | case2 => cases read
    | case3 => cases read
    | case4 first rest unit tail found units' later induction =>
        cases read
        obtain ⟨parts, divided, rfl⟩ := induction later
        obtain ⟨front, joined, spelled⟩ := next_unit_sound mark found
        rw [joined]
        exact ⟨(front, unit) :: parts, divided.cons spelled, rfl⟩
  · intro division
    rcases division with ⟨parts, divided, rfl⟩
    induction parts generalizing body with
    | nil =>
        rw [← divided.joined]
        exact readUnits.eq_1 quote
    | cons part parts induction =>
        obtain ⟨tail, joined, spelled, rest⟩ := divided.head
        obtain ⟨first, after, starts, read⟩ := next_unit_complete mark spelled tail
        rw [joined, starts]
        exact read_units_step read (induction rest)

end LiteralFlow.Literal
