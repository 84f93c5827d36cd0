import LiteralFlow.Literal.Numeral
import LiteralFlow.Proofs.Text.Blank
import LiteralFlow.Proofs.Text.Digits

/-!
Which texts are integer literals, and of which integers. A literal is read exactly
when it is a numeral with at most one sign, and its value is that of its digits when
this fits the word, however long the numeral is.
-/

namespace LiteralFlow.Literal

def radixMarks : List (Nat × Char) :=
  [(16, 'x'), (16, 'X'), (8, 'o'), (8, 'O'), (2, 'b'), (2, 'B')]

inductive UnsignedNumeral : List Char → Nat → Prop where
  | marked {radix value : Nat} {mark : Char} {digits : List Char}
      (known : (radix, mark) ∈ radixMarks) (nonempty : digits ≠ [])
      (numeral : Text.IsNumeral radix digits value) : UnsignedNumeral ('0' :: mark :: digits) value
  | padded {value : Nat} {digits : List Char} (nonempty : digits ≠ [])
      (numeral : Text.IsNumeral 8 digits value) : UnsignedNumeral ('0' :: digits) value
  | decimal {value : Nat} {digits : List Char} (nonempty : digits ≠ [])
      (unpadded : digits = ['0'] ∨ digits.head? ≠ some '0')
      (numeral : Text.IsNumeral 10 digits value) : UnsignedNumeral digits value

inductive SignedNumeral : List Char → Int → Prop where
  | bare {text : List Char} {value : Nat} (unsigned : UnsignedNumeral text value) :
      SignedNumeral text value
  | plus {text : List Char} {value : Nat} (unsigned : UnsignedNumeral text value) :
      SignedNumeral ('+' :: text) value
  | minus {text : List Char} {value : Nat} (unsigned : UnsignedNumeral text value) :
      SignedNumeral ('-' :: text) (-value)

variable {radix value : Nat} {text digits : List Char} {mark c : Char} {n : Int}

theorem mark_radix_le (known : (radix, mark) ∈ radixMarks) : radix ≤ 16 := by
  have each : radixMarks.all (fun entry => decide (entry.1 ≤ 16)) = true := by decide
  simpa using List.all_eq_true.mp each _ known

theorem split_radix_marked (known : (radix, mark) ∈ radixMarks) (digits : List Char) :
    splitRadix ('0' :: mark :: digits) = (radix, digits) := by
  simp only [radixMarks, List.mem_cons, Prod.mk.injEq, List.not_mem_nil, or_false] at known
  rcases known with ⟨rfl, rfl⟩ | ⟨rfl, rfl⟩ | ⟨rfl, rfl⟩ | ⟨rfl, rfl⟩ | ⟨rfl, rfl⟩ | ⟨rfl, rfl⟩
  all_goals rfl

theorem split_radix_unmarked (unmarked : c ∉ radixMarks.map Prod.snd) (digits : List Char) :
    splitRadix ('0' :: c :: digits) = (8, c :: digits) := by
  rw [splitRadix]
  all_goals
    rintro rfl
    exact unmarked (by decide)

theorem split_radix_decimal (unpadded : text = ['0'] ∨ text.head? ≠ some '0') :
    splitRadix text = (10, text) := by
  rcases unpadded with rfl | other
  · rfl
  · rw [splitRadix]
    all_goals
      intros
      subst text
      exact other rfl

theorem octal_digit_unmarked (digit : Text.IsDigit 8 c value) : c ∉ radixMarks.map Prod.snd := by
  have read := (Text.digit_value_eq_some_iff (by decide)).mpr digit
  have none : (radixMarks.map Prod.snd).all
      (fun mark => Text.digitValue? 8 mark == none) = true := by
    decide
  intro member
  have unread := List.all_eq_true.mp none c member
  rw [read] at unread
  cases unread

/-- The radix and the digits of a numeral are those of its form. -/
theorem split_radix_cases (text : List Char) :
    (∃ radix mark digits, (radix, mark) ∈ radixMarks ∧ text = '0' :: mark :: digits ∧
      splitRadix text = (radix, digits)) ∨
    (∃ c digits, text = '0' :: c :: digits ∧ splitRadix text = (8, c :: digits)) ∨
    (text = ['0'] ∨ text.head? ≠ some '0') ∧ splitRadix text = (10, text) := by
  rcases text with _ | ⟨first, rest⟩
  · exact .inr (.inr ⟨.inr (by simp), rfl⟩)
  · by_cases zero : first = '0'
    · rw [zero]
      rcases rest with _ | ⟨c, digits⟩
      · exact .inr (.inr ⟨.inl rfl, rfl⟩)
      · by_cases marked : c ∈ radixMarks.map Prod.snd
        · obtain ⟨⟨radix, mark⟩, known, rfl⟩ := List.mem_map.mp marked
          exact .inl ⟨radix, mark, digits, known, rfl, split_radix_marked known digits⟩
        · exact .inr (.inl ⟨c, digits, rfl, split_radix_unmarked marked digits⟩)
    · have other : (first :: rest).head? ≠ some '0' := by simpa using zero
      exact .inr (.inr ⟨.inr other, split_radix_decimal (.inr other)⟩)

theorem read_unsigned_of_split (divided : splitRadix text = (radix, digits)) (small : radix ≤ 16) :
    readUnsigned? text = some value ↔ digits ≠ [] ∧ Text.IsNumeral radix digits value := by
  simp only [readUnsigned?, divided]
  exact Text.read_numeral_eq_some_iff small

theorem read_unsigned_eq_some_iff :
    readUnsigned? text = some value ↔ UnsignedNumeral text value := by
  constructor
  · intro read
    rcases split_radix_cases text with ⟨radix, mark, digits, known, rfl, divided⟩ |
      ⟨c, digits, rfl, divided⟩ | ⟨unpadded, divided⟩
    · rw [read_unsigned_of_split divided (mark_radix_le known)] at read
      exact .marked known read.1 read.2
    · rw [read_unsigned_of_split divided (by decide)] at read
      exact .padded read.1 read.2
    · rw [read_unsigned_of_split divided (by decide)] at read
      exact .decimal read.1 unpadded read.2
  · intro unsigned
    cases unsigned with
    | marked known nonempty numeral =>
        have divided := split_radix_marked known
        exact (read_unsigned_of_split (divided _) (mark_radix_le known)).mpr ⟨nonempty, numeral⟩
    | padded nonempty numeral =>
        obtain ⟨c, rest, rfl⟩ := List.exists_cons_of_ne_nil nonempty
        obtain ⟨digit, isDigit⟩ := Text.numeral_head numeral
        have divided := split_radix_unmarked (octal_digit_unmarked isDigit)
        exact (read_unsigned_of_split (divided _) (by decide)).mpr ⟨nonempty, numeral⟩
    | decimal nonempty unpadded numeral =>
        have divided := split_radix_decimal unpadded
        exact (read_unsigned_of_split divided (by decide)).mpr ⟨nonempty, numeral⟩

theorem UnsignedNumeral.no_sign (unsigned : UnsignedNumeral (c :: text) value) :
    c ≠ '-' ∧ c ≠ '+' := by
  have first : ∃ digit, Text.digitValue? 10 c = some digit := by
    cases unsigned with
    | marked => exact ⟨0, rfl⟩
    | padded => exact ⟨0, rfl⟩
    | decimal _ _ numeral =>
        obtain ⟨digit, isDigit⟩ := Text.numeral_head numeral
        exact ⟨digit, (Text.digit_value_eq_some_iff (by decide)).mpr isDigit⟩
  obtain ⟨digit, read⟩ := first
  constructor
  · rintro rfl
    cases read
  · rintro rfl
    cases read

theorem read_signed_eq_some_iff : readSigned? text = some n ↔ SignedNumeral text n := by
  constructor
  · intro read
    unfold readSigned? at read
    split at read
    all_goals
      simp only [Option.map_eq_some_iff, Option.bind_eq_bind, Option.bind_eq_some_iff,
        Option.pure_def, Option.some.injEq, read_unsigned_eq_some_iff] at read
      obtain ⟨_, ⟨value, unsigned, rfl⟩, rfl⟩ := read
    · exact .minus unsigned
    · exact .plus unsigned
    · exact .bare unsigned
  · intro signed
    cases signed with
    | @bare _ value unsigned =>
        have read := read_unsigned_eq_some_iff.mpr unsigned
        rw [readSigned?, read]
        · rfl
        · rintro rest rfl
          exact unsigned.no_sign.1 rfl
        · rintro rest rfl
          exact unsigned.no_sign.2 rfl
    | plus unsigned =>
        rw [readSigned?, read_unsigned_eq_some_iff.mpr unsigned]
        rfl
    | minus unsigned =>
        rw [readSigned?, read_unsigned_eq_some_iff.mpr unsigned]
        rfl

/-- The literal without the blanks around it and without underscores. -/
def Cleans (literal text : List Char) : Prop :=
  ∃ core, Text.Trims literal core ∧ core.filter (· ≠ '_') = text

theorem cleans_iff {literal : List Char} :
    Cleans literal text ↔ (Text.trimBlanks literal).filter (· ≠ '_') = text := by
  simp only [Cleans, Text.trims_iff, exists_eq_left']

theorem parse_integer_of_cleans {literal : String} (cleans : Cleans literal.toList text) :
    parseInteger? literal = (readSigned? text).bind Integer.fit? := by
  rw [← cleans_iff.mp cleans]
  rfl

theorem parse_integer_eq_some_iff {literal : String} (cleans : Cleans literal.toList text) :
    parseInteger? literal = some n ↔
      SignedNumeral text n ∧ Integer.minimum ≤ n ∧ n ≤ Integer.maximum := by
  simp only [parse_integer_of_cleans cleans, Option.bind_eq_some_iff, Integer.fit?,
    Option.ite_none_right_eq_some, Option.some.injEq, read_signed_eq_some_iff]
  constructor
  · intro found
    rcases found with ⟨_, signed, fits, rfl⟩
    exact ⟨signed, fits⟩
  · intro found
    exact ⟨n, found.1, found.2, rfl⟩

/-! ### Decimal texts -/

theorem digit_visible (digit : c.isDigit = true) : Text.isBlank c = false ∧ c ≠ '_' := by
  have range : '0' ≤ c ∧ c ≤ '9' := by
    simpa [Char.isDigit, Char.le_def] using digit
  have lower : 48 ≤ c.toNat := range.1
  have upper : c.toNat ≤ 57 := range.2
  constructor
  · simp only [Text.isBlank, Text.blankRanges, List.any_cons, List.any_nil, Bool.or_false,
      Bool.or_eq_false_iff, Bool.and_eq_false_iff, decide_eq_false_iff_not]
    omega
  · rintro rfl
    exact absurd digit (by decide)

theorem cleans_visible (visible : ∀ c ∈ text, Text.isBlank c = false ∧ c ≠ '_') :
    Cleans text text := by
  refine ⟨text, ⟨⟨[], [], by simp, by simp, by simp⟩, ?_, ?_⟩, ?_⟩
  · intro c first
    exact (visible c (List.mem_of_mem_head? first)).1
  · intro c last
    exact (visible c (List.mem_of_getLast? last)).1
  · apply List.filter_eq_self.mpr
    intro c member
    exact decide_eq_true (visible c member).2

theorem unsigned_of_nat (value : Nat) : UnsignedNumeral (Nat.toDigits 10 value) value := by
  have padding := Text.head_to_digits value
  obtain ⟨nonempty, numeral⟩ :=
    (Text.read_numeral_eq_some_iff (by decide)).mp (Text.read_numeral_to_digits value)
  refine .decimal nonempty ?_ numeral
  by_cases zero : (Nat.toDigits 10 value).head? = some '0'
  · have single : (Nat.toDigits 10 value).length = 1 := by
      by_contra several
      exact padding ⟨zero, several⟩
    obtain ⟨digit, alone⟩ := List.length_eq_one_iff.mp single
    rw [alone] at zero ⊢
    exact .inl (congrArg (· :: []) (Option.some.inj zero))
  · exact .inr zero

/-- The decimal text of an integer is a numeral of it, without blanks and underscores. -/
theorem signed_to_string (n : Int) :
    SignedNumeral (toString n).toList n ∧
      ∀ c ∈ (toString n).toList, Text.isBlank c = false ∧ c ≠ '_' := by
  cases n with
  | ofNat value =>
      have spelled : (toString (Int.ofNat value)).toList = Nat.toDigits 10 value :=
        Nat.toList_repr
      rw [spelled]
      exact ⟨.bare (unsigned_of_nat value),
        fun c member => digit_visible (Text.digits_of_nat c member)⟩
  | negSucc value =>
      have spelled :
          (toString (Int.negSucc value)).toList = '-' :: Nat.toDigits 10 (value + 1) := by
        rw [← Nat.toList_repr]
        exact String.toList_append
      rw [spelled]
      refine ⟨.minus (unsigned_of_nat (value + 1)), ?_⟩
      intro c member
      rcases List.mem_cons.mp member with rfl | digit
      · decide
      · exact digit_visible (Text.digits_of_nat c digit)

/-- A literal is read exactly when, without the blanks around it and without
underscores, it is a numeral with at most one sign whose value fits the word. So each
integer of the word is read back from its decimal text, and a numeral outside the word
is refused, however many digits it has. -/
theorem integer_literal_exact (literal : String) :
    (∀ n, parseInteger? literal = some n ↔
      ∃ text, Cleans literal.toList text ∧ SignedNumeral text n ∧
        Integer.minimum ≤ n ∧ n ≤ Integer.maximum) ∧
    (∀ n, Integer.minimum ≤ n → n ≤ Integer.maximum → parseInteger? (toString n) = some n) ∧
    ∀ text n, Cleans literal.toList text → SignedNumeral text n →
      n < Integer.minimum ∨ Integer.maximum < n → parseInteger? literal = none := by
  refine ⟨?_, ?_, ?_⟩
  · intro n
    constructor
    · intro read
      have cleans : Cleans literal.toList _ := cleans_iff.mpr rfl
      exact ⟨_, cleans, (parse_integer_eq_some_iff cleans).mp read⟩
    · intro numeral
      obtain ⟨text, cleans, signed⟩ := numeral
      exact (parse_integer_eq_some_iff cleans).mpr signed
  · intro n lower upper
    obtain ⟨signed, visible⟩ := signed_to_string n
    exact (parse_integer_eq_some_iff (cleans_visible visible)).mpr ⟨signed, lower, upper⟩
  · intro text n cleans signed outside
    rw [parse_integer_of_cleans cleans, read_signed_eq_some_iff.mpr signed]
    exact if_neg (by omega)

/-- The least integer of the word, a literal with a leading zero between blanks, and
the least magnitude of more than 128 bits. -/
theorem word_edges_read :
    parseInteger? (toString Integer.minimum) = some Integer.minimum ∧
    parseInteger? "\u3000-0_755\t" = some (-493) ∧
    parseInteger? "0x1_00000000000000000000000000000000" = none := by
  have octal : Text.IsNumeral 8 ['7', '5', '5'] 493 :=
    (Text.numeral_value_iff (by decide)).mp (by decide)
  have long : Text.IsNumeral 16 "100000000000000000000000000000000".toList
      0x100000000000000000000000000000000 :=
    (Text.numeral_value_iff (by decide)).mp (by decide)
  refine ⟨(integer_literal_exact "").2.1 _ (by decide) (by decide), ?_, ?_⟩
  · refine ((integer_literal_exact _).1 _).mpr
      ⟨['-', '0', '7', '5', '5'], ?_, ?_, by decide, by decide⟩
    · exact cleans_iff.mpr (by decide)
    · exact .minus (.padded (by decide) octal)
  · refine (integer_literal_exact _).2.2 _ 0x100000000000000000000000000000000 ?_
      (.bare (@UnsignedNumeral.marked 16 _ 'x' _ (by decide) (by decide) long)) (.inr (by decide))
    exact cleans_iff.mpr (by decide)

end LiteralFlow.Literal
