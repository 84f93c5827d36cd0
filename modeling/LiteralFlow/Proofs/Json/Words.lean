import LiteralFlow.Proofs.Json.RoundTrip

/-!
Where scalars end. A reader of a scalar takes a word from the front of a text, and
takes the same word whatever comes behind it, as long as that does not continue a
number.
-/

namespace LiteralFlow.Json

def isMark (c : Char) : Bool :=
  c = '[' || c = ']' || c = '\x7b' || c = '\x7d' || c = ',' || c = ':'

def EndsScalar (rest : List Char) : Prop :=
  ∀ c ∈ rest.head?, isSpace c = true ∨ isMark c = true

theorem EndsScalar.ends_number {rest : List Char} (ends : EndsScalar rest) : EndsNumber rest := by
  intro c head
  rcases ends c head with blank | mark
  · simp only [isSpace, Bool.or_eq_true, decide_eq_true_eq] at blank
    rcases blank with ((rfl | rfl) | rfl) | rfl <;> decide
  · simp only [isMark, Bool.or_eq_true, decide_eq_true_eq] at mark
    rcases mark with ((((rfl | rfl) | rfl) | rfl) | rfl) | rfl <;> decide

/-- What is behind a number when the number ends there: a text that starts as
`rest` does, or one that cannot continue a number. -/
def EndsAlike (rest behind : List Char) : Prop :=
  behind.head? = rest.head? ∨ EndsNumber behind

/-- A reader takes a word from the front of a text, and takes the same word before
any text that ends it alike. -/
def TakesWord {α : Type} (read : List Char → Option (α × List Char)) : Prop :=
  ∀ text value rest, read text = some (value, rest) →
    ∃ word, text = word ++ rest ∧
      ∀ behind, EndsAlike rest behind → read (word ++ behind) = some (value, behind)

theorem EndsAlike.append {rest behind : List Char} (alike : EndsAlike rest behind)
    (word : List Char) : EndsAlike (word ++ rest) (word ++ behind) := by
  cases word with
  | nil => exact alike
  | cons c word => exact Or.inl rfl

theorem ends_alike_nil {rest : List Char} : EndsAlike rest [] := by
  refine Or.inr fun c head => ?_
  cases head

theorem digits_take_word : TakesWord readDigits? := by
  intro text digits rest read
  simp only [readDigits?] at read
  split at read
  · cases read
  · rename_i nonempty
    cases read
    refine ⟨_, List.takeWhile_append_dropWhile.symm, fun behind alike => ?_⟩
    have digit : ∀ c ∈ text.takeWhile Char.isDigit, c.isDigit = true :=
      List.all_eq_true.mp List.all_takeWhile
    have stop : ∀ c ∈ behind.head?, c.isDigit = false := by
      rcases alike with same | ends
      · intro c head
        have first := List.head?_dropWhile_not Char.isDigit text
        rw [same] at head
        rw [head] at first
        exact first
      · exact fun c head => (ends c head).1
    have noneMore : behind.takeWhile Char.isDigit = [] ∧
        behind.dropWhile Char.isDigit = behind := by
      cases behind with
      | nil => simp
      | cons c behind => simp [stop c rfl]
    simp only [readDigits?, List.takeWhile_append_of_pos digit, List.dropWhile_append_of_pos digit,
      noneMore.1, noneMore.2, List.append_nil]
    rw [if_neg nonempty]

theorem whole_takes_word : TakesWord readWhole? := by
  intro text whole rest read
  simp only [readWhole?, Option.bind_eq_bind, Option.bind_eq_some_iff] at read
  obtain ⟨⟨digits, left⟩, taken, read⟩ := read
  split at read
  · cases read
  · rename_i plain
    obtain ⟨numeral, value, same⟩ := Option.bind_eq_some_iff.mp read
    cases same
    obtain ⟨word, rfl, again⟩ := digits_take_word _ _ _ taken
    refine ⟨word, rfl, fun behind alike => ?_⟩
    simp [readWhole?, again behind alike, if_neg plain, value]

theorem fraction_takes_word : TakesWord readFraction? := by
  intro text fraction rest read
  unfold readFraction? at read
  split at read
  · obtain ⟨word, rfl, again⟩ := digits_take_word _ _ _ read
    exact ⟨'.' :: word, rfl, again⟩
  · rename_i other
    cases read
    refine ⟨[], rfl, fun behind alike => ?_⟩
    rw [List.nil_append, readFraction?]
    rintro tail rfl
    rcases alike with same | ends
    · obtain ⟨tail, point⟩ := List.head?_eq_some_iff.mp same.symm
      exact other tail point
    · exact (ends '.' rfl).2.1 rfl

theorem magnitude_takes_word (sign : Int) : TakesWord (readMagnitude? sign) := by
  intro text exponent rest read
  simp only [readMagnitude?, Option.bind_eq_bind, Option.bind_eq_some_iff] at read
  obtain ⟨⟨digits, left⟩, taken, magnitude, value, same⟩ := read
  cases same
  obtain ⟨word, rfl, again⟩ := digits_take_word _ _ _ taken
  refine ⟨word, rfl, fun behind alike => ?_⟩
  simp [readMagnitude?, again behind alike, value]

theorem signed_takes_word : TakesWord readSignedExponent? := by
  intro text exponent rest read
  unfold readSignedExponent? at read
  split at read
  · obtain ⟨word, rfl, again⟩ := magnitude_takes_word _ _ _ _ read
    exact ⟨'-' :: word, rfl, again⟩
  · obtain ⟨word, rfl, again⟩ := magnitude_takes_word _ _ _ _ read
    exact ⟨'+' :: word, rfl, again⟩
  · rename_i minus plus
    obtain ⟨word, rfl, again⟩ := magnitude_takes_word _ _ _ _ read
    refine ⟨word, rfl, fun behind alike => ?_⟩
    cases word with
    | nil => cases again [] ends_alike_nil
    | cons c word =>
        rw [List.cons_append, readSignedExponent?]
        · exact again behind alike
        · intro tail same
          exact minus _ (by rw [(List.cons.inj same).1]; rfl)
        · intro tail same
          exact plus _ (by rw [(List.cons.inj same).1]; rfl)

theorem exponent_takes_word : TakesWord readExponent? := by
  intro text exponent rest read
  unfold readExponent? at read
  split at read
  · obtain ⟨word, rfl, again⟩ := signed_takes_word _ _ _ read
    exact ⟨'e' :: word, rfl, again⟩
  · obtain ⟨word, rfl, again⟩ := signed_takes_word _ _ _ read
    exact ⟨'E' :: word, rfl, again⟩
  · rename_i small large
    cases read
    refine ⟨[], rfl, fun behind alike => ?_⟩
    rw [List.nil_append, readExponent?]
    · rintro tail rfl
      rcases alike with same | ends
      · obtain ⟨tail, mark⟩ := List.head?_eq_some_iff.mp same.symm
        exact small tail mark
      · exact (ends 'e' rfl).2.2.1 rfl
    · rintro tail rfl
      rcases alike with same | ends
      · obtain ⟨tail, mark⟩ := List.head?_eq_some_iff.mp same.symm
        exact large tail mark
      · exact (ends 'E' rfl).2.2.2 rfl

theorem unsigned_takes_word (negative : Bool) : TakesWord (readUnsigned? negative) := by
  intro text number rest read
  simp only [readUnsigned?, Option.bind_eq_bind, Option.bind_eq_some_iff] at read
  obtain ⟨⟨whole, first⟩, whole_read, ⟨fraction, second⟩, fraction_read, ⟨exponent, third⟩,
    exponent_read, same⟩ := read
  cases same
  obtain ⟨digits, rfl, digitsAgain⟩ := whole_takes_word _ _ _ whole_read
  obtain ⟨point, rfl, pointAgain⟩ := fraction_takes_word _ _ _ fraction_read
  obtain ⟨power, rfl, powerAgain⟩ := exponent_takes_word _ _ _ exponent_read
  refine ⟨digits ++ (point ++ power), by simp, fun behind alike => ?_⟩
  have later := alike.append power
  simp only [List.append_assoc, readUnsigned?, Option.bind_eq_bind,
    digitsAgain _ (later.append point), pointAgain _ later, powerAgain _ alike,
    Option.bind_some]

theorem number_takes_word : TakesWord readNumber? := by
  intro text number rest read
  unfold readNumber? at read
  split at read
  · obtain ⟨word, rfl, again⟩ := unsigned_takes_word _ _ _ _ read
    exact ⟨'-' :: word, rfl, again⟩
  · rename_i minus
    obtain ⟨word, rfl, again⟩ := unsigned_takes_word _ _ _ _ read
    refine ⟨word, rfl, fun behind alike => ?_⟩
    cases word with
    | nil => cases again [] ends_alike_nil
    | cons c word =>
        rw [List.cons_append, readNumber?]
        · exact again behind alike
        · intro tail same
          exact minus _ (by rw [(List.cons.inj same).1]; rfl)

/-- A string has its own end, so it is the same before any text. -/
theorem units_take_word {text rest : List Char} {units : List StringUnit}
    (read : readUnits? text = some (units, rest)) :
    ∃ word, text = word ++ rest ∧
      ∀ behind, readUnits? (word ++ behind) = some (units, behind) := by
  fun_induction readUnits? text generalizing units rest with
  | case1 => cases read
  | case2 text =>
      cases read
      exact ⟨['\x22'], rfl, read_units_end⟩
  | case3 => cases read
  | case4 e text c escape _ induction =>
      simp only [Option.bind_eq_bind, Option.bind_eq_some_iff] at read
      obtain ⟨⟨units, left⟩, inner, same⟩ := read
      cases same
      obtain ⟨word, rfl, again⟩ := induction inner
      refine ⟨'\\' :: e :: word, rfl, fun behind => ?_⟩
      rw [List.cons_append, List.cons_append, read_units_escape escape, again]
      rfl
  | case5 first second third fourth text _ escape induction =>
      simp only [Option.bind_eq_bind, Option.bind_eq_some_iff] at read
      obtain ⟨code, value, ⟨units, left⟩, inner, same⟩ := read
      cases same
      obtain ⟨word, rfl, again⟩ := induction inner
      refine ⟨'\\' :: 'u' :: first :: second :: third :: fourth :: word, rfl, fun behind => ?_⟩
      simp only [List.cons_append]
      rw [readUnits?]
      simp [escape, value, again]
  | case6 => cases read
  | case7 => cases read
  | case8 => cases read
  | case9 c text quote backslash visible induction =>
      simp only [Option.bind_eq_bind, Option.bind_eq_some_iff] at read
      obtain ⟨⟨units, left⟩, inner, same⟩ := read
      cases same
      obtain ⟨word, rfl, again⟩ := induction inner
      refine ⟨c :: word, rfl, fun behind => ?_⟩
      rw [List.cons_append, read_units_plain quote backslash visible, again]
      rfl

theorem string_takes_word {text rest : List Char} {value : Option String}
    (read : readString? text = some (value, rest)) :
    ∃ word, text = word ++ rest ∧
      ∀ behind, readString? (word ++ behind) = some (value, behind) := by
  simp only [readString?, Option.bind_eq_bind, Option.bind_eq_some_iff] at read
  obtain ⟨⟨units, left⟩, inner, same⟩ := read
  cases same
  obtain ⟨word, rfl, again⟩ := units_take_word inner
  refine ⟨word, rfl, fun behind => ?_⟩
  simp only [readString?, again, Option.bind_eq_bind, Option.bind_some]

theorem number_head {text rest : List Char} {number : JsonNumber}
    (read : readNumber? text = some (number, rest)) :
    ∃ c tail, text = c :: tail ∧ (c = '-' ∨ c.isDigit = true) := by
  cases text with
  | nil => cases read
  | cons c tail =>
      refine ⟨c, tail, rfl, Decidable.byContradiction fun neither => ?_⟩
      obtain ⟨minus, digit⟩ := not_or.mp neither
      rw [readNumber?] at read
      · simp [readUnsigned?, readWhole?, readDigits?, digit] at read
      · intro tail same
        exact minus (List.cons.inj same).1

theorem read_scalar_of_number {text rest : List Char} {number : JsonNumber}
    (read : readNumber? text = some (number, rest)) :
    readScalar? text = some (.number number, rest) := by
  obtain ⟨c, tail, rfl, head⟩ := number_head read
  have apart : c ≠ '\x22' ∧ c ≠ 'n' ∧ c ≠ 't' ∧ c ≠ 'f' := by
    rcases head with rfl | digit
    · decide
    · exact (digit_head digit).2
  obtain ⟨notQuote, notNull, notTrue, notFalse⟩ := apart
  simp only [readScalar?]
  split
  · rename_i same
    exact absurd (List.cons.inj same).1 notQuote
  · rename_i same
    exact absurd (List.cons.inj same).1 notNull
  · rename_i same
    exact absurd (List.cons.inj same).1 notTrue
  · rename_i same
    exact absurd (List.cons.inj same).1 notFalse
  · rw [read]
    rfl

theorem scalar_takes_word : TakesWord readScalar? := by
  intro text value rest read
  unfold readScalar? at read
  split at read
  · obtain ⟨⟨inner, left⟩, string, same⟩ := Option.map_eq_some_iff.mp read
    cases same
    obtain ⟨word, rfl, again⟩ := string_takes_word string
    refine ⟨'\x22' :: word, rfl, fun behind _ => ?_⟩
    rw [List.cons_append, readScalar?, again]
    rfl
  · cases read
    exact ⟨['n', 'u', 'l', 'l'], rfl, fun _ _ => rfl⟩
  · cases read
    exact ⟨['t', 'r', 'u', 'e'], rfl, fun _ _ => rfl⟩
  · cases read
    exact ⟨['f', 'a', 'l', 's', 'e'], rfl, fun _ _ => rfl⟩
  · obtain ⟨⟨number, left⟩, inner, same⟩ := Option.map_eq_some_iff.mp read
    cases same
    obtain ⟨word, rfl, again⟩ := number_takes_word _ _ _ inner
    exact ⟨word, rfl, fun behind alike => read_scalar_of_number (again behind alike)⟩

theorem read_scalar_before {word behind : List Char} {value : Json}
    (read : readScalar? word = some (value, [])) (ends : EndsScalar behind) :
    readScalar? (word ++ behind) = some (value, behind) := by
  obtain ⟨whole, same, again⟩ := scalar_takes_word _ _ _ read
  rw [List.append_nil] at same
  rw [same]
  exact again behind (Or.inr ends.ends_number)

theorem scalar_head {text rest : List Char} {value : Json}
    (read : readScalar? text = some (value, rest)) :
    ∃ c tail, text = c :: tail ∧ isSpace c = false ∧ isMark c = false := by
  cases text with
  | nil => cases read
  | cons c tail =>
      refine ⟨c, tail, rfl, ?_, ?_⟩
      · apply Bool.eq_false_iff.mpr
        intro blank
        simp only [isSpace, Bool.or_eq_true, decide_eq_true_eq] at blank
        rcases blank with ((rfl | rfl) | rfl) | rfl <;> cases read
      · apply Bool.eq_false_iff.mpr
        intro mark
        simp only [isMark, Bool.or_eq_true, decide_eq_true_eq] at mark
        rcases mark with ((((rfl | rfl) | rfl) | rfl) | rfl) | rfl <;> cases read

end LiteralFlow.Json
