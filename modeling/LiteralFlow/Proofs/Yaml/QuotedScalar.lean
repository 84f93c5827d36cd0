import LiteralFlow.Proofs.Literal.QuotedGrammar
import LiteralFlow.Proofs.Yaml.PlainScalar

/-!
Quoted scalars read back. Between single quotes the line breaks that are no line
feeds stay and the indentation after them is dropped; between double quotes all
text is kept, since what a line cannot hold is escaped.
-/

namespace LiteralFlow.Yaml

variable {c d : Char} {column : Nat} {text tail : List Char} {gap : Gap}

def Closes (read : Option ScalarScan) (text tail : List Char) : Prop :=
  ∃ oneLine column, read = some ⟨text, oneLine, false, ⟨column, tail⟩⟩

theorem Closes.precede {read : Option ScalarScan} (closes : Closes read text tail) (gap : Gap)
    (word : List Char) : Closes (read.map (.precede gap word)) (gap.fold ++ word ++ text) tail := by
  obtain ⟨oneLine, column, rfl⟩ := closes
  exact ⟨_, _, rfl⟩

/-! ## Single quotes -/

theorem read_single_break (ends : isBreak c = true) :
    readSingle? gap column (c :: text) = readSingle? (gap.addBreak c) 0 text := by
  rw [readSingle?.eq_def]
  exact if_pos ends

theorem read_single_blank (blank : isBlank c = true) (breakFree : isBreak c = false) :
    readSingle? gap column (c :: text) = readSingle? (gap.addBlank c) (column + 1) text := by
  rw [readSingle?.eq_def]
  simp only [breakFree, blank, Bool.false_eq_true, if_true, if_false]

theorem read_single_cons (breakFree : isBreak c = false) (blankFree : isBlank c = false)
    (inside : 0 < column) (quote : c ≠ '\x27') :
    readSingle? gap column (c :: text) =
      (readSingle? Gap.none (column + 1) text).map (.precede gap [c]) := by
  rw [readSingle?.eq_def]
  simp only [breakFree, blankFree, Cursor.not_marker_inside inside, quote, Bool.false_eq_true,
    if_false]

theorem read_single_quote (inside : 0 < column) :
    readSingle? gap column ('\x27' :: '\x27' :: text) =
      (readSingle? Gap.none (column + 2) text).map (.precede gap ['\x27']) := by
  rw [readSingle?, if_neg (by decide), if_neg (by decide),
    if_neg (by simp [Cursor.not_marker_inside inside]), if_pos rfl]

theorem read_single_close (inside : 0 < column) (ends : tail.head? ≠ some '\x27') :
    Closes (readSingle? gap column ('\x27' :: tail)) gap.fold tail := by
  have alone : ∀ text, tail = '\x27' :: text → False := by
    rintro text rfl
    exact ends rfl
  rw [readSingle?.eq_3 _ _ _ _ alone, if_neg (by decide), if_neg (by decide),
    if_neg (by simp [Cursor.not_marker_inside inside]), if_pos rfl]
  exact ⟨true && !gap.crossesLine, column + 1, by simp [ScalarScan.precede]⟩

/-- The gap before the rest of a text that is written between single quotes:
blanks in a line, or line breaks of which the first is no line feed. -/
inductive SingleGap : Bool → Gap → List Char → Prop
  | blanks (pending text : List Char) (kept : pending ≠ [] → ∀ c ∈ text.head?, isBreak c = false) :
      SingleGap false (.blanks pending) text
  | breaks {first : Char} (other : first ≠ '\n') (more text : List Char)
      (kept : text.head? ≠ some ' ') : SingleGap true (.breaks (some first) more) text

theorem fold_breaks {first : Char} (other : first ≠ '\n') (more : List Char) :
    Gap.fold (.breaks (some first) more) = first :: more.reverse := by
  unfold Gap.fold
  split
  all_goals simp_all

/-- Neither pair of characters stands at the start of a text without it, nor
further on. -/
theorem pair_cons {first second : Char → Bool}
    (pairless : hasPair first second (c :: text) = false) :
    (first c = true → ∀ d ∈ text.head?, second d = false) ∧
      hasPair first second text = false := by
  cases text with
  | nil => exact ⟨by simp, rfl⟩
  | cons d text =>
      simp only [hasPair, Bool.or_eq_false_iff, Bool.and_eq_false_iff] at pairless
      refine ⟨?_, pairless.2⟩
      intro holds
      simpa [holds] using pairless.1

/-- No blank waits before a line break, so the break is all that is added. -/
theorem SingleGap.add_break {after : Bool} (state : SingleGap after gap (c :: text))
    (feed : c ≠ '\n') (endsLine : isBreak c = true) (noSpace : text.head? ≠ some ' ') :
    SingleGap true (gap.addBreak c) text ∧ (gap.addBreak c).fold = gap.fold ++ [c] := by
  cases state with
  | blanks pending _ kept =>
      have empty : pending = [] := by
        by_contra waiting
        have content := kept waiting c rfl
        exact Bool.false_ne_true (content.symm.trans endsLine)
      subst empty
      exact ⟨.breaks feed [] text noSpace, fold_breaks feed []⟩
  | breaks other more _ kept =>
      refine ⟨.breaks other (c :: more) text noSpace, ?_⟩
      rw [Gap.addBreak, fold_breaks other, fold_breaks other, List.reverse_cons]
      rfl

/-- The indentation before a character is dropped, and the character does not
stand at the start of a line. -/
theorem read_single_indent {after : Bool} (state : SingleGap after gap text)
    (inside : after = false → 0 < column) (body : List Char) :
    ∃ place, 0 < place ∧
      readSingle? gap column ((if after then bodyIndent else []) ++ body) =
        readSingle? gap place body := by
  cases state with
  | blanks pending text kept => exact ⟨column, inside rfl, rfl⟩
  | breaks other more text kept =>
      refine ⟨column + 4, by omega, ?_⟩
      have space : isBlank ' ' = true ∧ isBreak ' ' = false := by decide
      simp only [if_true, bodyIndent, List.cons_append, List.nil_append,
        read_single_blank space.1 space.2, Gap.addBlank]

theorem read_single_written {after : Bool} (state : SingleGap after gap text)
    (inside : after = false → 0 < column) (printable : ∀ c ∈ text, isPrintable c = true)
    (feedless : '\n' ∉ text) (before : hasPair isSpace isBreak text = false)
    (behind : hasPair isBreak isSpace text = false) (ends : tail.head? ≠ some '\x27') :
    Closes (readSingle? gap column (singleBody after text ++ '\x27' :: tail))
      (gap.fold ++ text) tail := by
  induction text generalizing after gap column with
  | nil =>
      obtain ⟨place, within, same⟩ := read_single_indent state inside ('\x27' :: tail)
      rw [singleBody, same, List.append_nil]
      exact read_single_close within ends
  | cons c text induction =>
      have ⟨first, others⟩ := List.forall_mem_cons.mp printable
      have ⟨feed, feedlessLater⟩ : '\n' ≠ c ∧ '\n' ∉ text := by simpa using feedless
      obtain ⟨keptBefore, beforeLater⟩ := pair_cons before
      obtain ⟨keptBehind, behindLater⟩ := pair_cons behind
      by_cases endsLine : isBreak c = true
      · have noSpace : text.head? ≠ some ' ' := by
          intro space
          exact Bool.false_ne_true (keptBehind endsLine ' ' space).symm
        have afterBreak := state.add_break feed.symm endsLine noSpace
        have regrouped : gap.fold ++ c :: text = (gap.addBreak c).fold ++ text := by
          rw [afterBreak.2, List.append_assoc, List.singleton_append]
        rw [singleBody, if_pos endsLine, List.cons_append, read_single_break endsLine, regrouped]
        exact induction afterBreak.1 (by simp) others feedlessLater beforeLater behindLater
      · have breakFree : isBreak c = false := by simpa using endsLine
        by_cases blank : isBlank c = true
        · obtain rfl := eq_space_of_blank first blank
          cases state with
          | blanks pending _ kept =>
              have waits : SingleGap false (.blanks (' ' :: pending)) text :=
                .blanks _ _ fun _ => keptBefore rfl
              have read := induction waits (fun _ => Nat.succ_pos column) others feedlessLater
                beforeLater behindLater
              simpa [singleBody, breakFree, read_single_blank blank breakFree, Gap.addBlank,
                Gap.fold] using read
          | breaks other more _ kept => exact absurd rfl kept
        · have blankFree : isBlank c = false := by simpa using blank
          have fresh : SingleGap false Gap.none text :=
            .blanks [] text fun waiting => absurd rfl waiting
          have read := fun column => induction fresh (fun _ => Nat.succ_pos column) others
            feedlessLater beforeLater behindLater
          have written := fun column => (read column).precede gap [c]
          rw [singleBody, if_neg endsLine, List.append_assoc, List.append_assoc]
          obtain ⟨place, within, same⟩ := read_single_indent state inside
            ((if c = '\x27' then ['\x27', '\x27'] else [c]) ++
              (singleBody false text ++ '\x27' :: tail))
          rw [same]
          by_cases quote : c = '\x27'
          · subst quote
            rw [if_pos rfl, List.cons_append, List.cons_append, List.nil_append,
              read_single_quote within]
            simpa [Gap.fold, Gap.none] using written (place + 1)
          · rw [if_neg quote, List.singleton_append,
              read_single_cons breakFree blankFree within quote]
            simpa [Gap.fold, Gap.none] using written place

/-! ## Double quotes -/

theorem hex_digits_length (width value : Nat) : (hexDigits width value).length = width := by
  induction width generalizing value with
  | zero => rfl
  | succ width induction => simp [hexDigits, induction]

theorem hex_digits_numeral {width value : Nat} (small : value < Nat.pow 16 width) :
    Text.IsNumeral 16 (hexDigits width value) value := by
  induction width generalizing value with
  | zero =>
      have zero : value = 0 := Nat.lt_one_iff.mp small
      exact ⟨[], .nil, zero.symm⟩
  | succ width induction =>
      have shifted : value / 16 < Nat.pow 16 width := by
        rw [Nat.div_lt_iff_lt_mul (by decide)]
        exact small
      obtain ⟨digits, each, same⟩ := induction shifted
      have digit : Text.IsDigit 16 (Nat.digitChar (value % 16)).toUpper (value % 16) :=
        ⟨Nat.mod_lt _ (by decide), .inr rfl⟩
      refine ⟨digits ++ [value % 16], List.rel_append each (.cons digit .nil), ?_⟩
      rw [List.reverse_append, List.reverse_singleton, List.singleton_append, Nat.ofDigits_cons,
        same]
      exact Nat.mod_add_div value 16

/-- The digits of an escape are read from the highest to the lowest. -/
theorem read_double_digits {digits : List Char} {code value : Nat} (nonempty : digits ≠ [])
    (numeral : Text.continueNumeral? 16 code digits = some value) (char : charOf? value = some c) :
    readDouble? gap digits.length code column (digits ++ text) =
      (readDouble? Gap.none 0 0 (column + digits.length) text).map (.precede gap [c]) := by
  induction digits generalizing code column with
  | nil => exact absurd rfl nonempty
  | cons d digits induction =>
      simp only [Text.continueNumeral?, Option.bind_eq_bind, Option.bind_eq_some_iff] at numeral
      obtain ⟨digit, isDigit, later⟩ := numeral
      rw [List.length_cons, List.cons_append, readDouble?]
      cases digits with
      | nil =>
          cases later
          simp [isDigit, char]
      | cons e digits =>
          simp only [isDigit, Option.bind_eq_bind, Option.bind_some, List.length_cons,
            Nat.add_eq_zero_iff, one_ne_zero, and_false, if_false]
          have read := @induction (column + 1) _ (by simp) later
          rw [List.length_cons] at read
          rw [read, Nat.add_assoc, Nat.add_comm 1]

theorem read_double_blank (blank : isBlank c = true) (breakFree : isBreak c = false) :
    readDouble? gap 0 0 column (c :: text) =
      readDouble? (gap.addBlank c) 0 0 (column + 1) text := by
  rw [readDouble?.eq_def]
  simp only [breakFree, blank, Bool.false_eq_true, if_true, if_false]

theorem read_double_cons (breakFree : isBreak c = false) (blankFree : isBlank c = false)
    (inside : 0 < column) (quote : c ≠ '\x22') (backslash : c ≠ '\\') :
    readDouble? gap 0 0 column (c :: text) =
      (readDouble? Gap.none 0 0 (column + 1) text).map (.precede gap [c]) := by
  rw [readDouble?.eq_def]
  simp only [breakFree, blankFree, Cursor.not_marker_inside inside, quote, backslash,
    Bool.false_eq_true, if_false]

theorem read_double_close (inside : 0 < column) :
    Closes (readDouble? gap 0 0 column ('\x22' :: tail)) gap.fold tail := by
  have ends : readDouble? gap 0 0 column ('\x22' :: tail) =
      some (.precede gap [] ⟨[], true, false, ⟨column + 1, tail⟩⟩) := by
    rw [readDouble?.eq_def]
    simp only [show isBreak '\x22' = false from rfl, show isBlank '\x22' = false from rfl,
      Cursor.not_marker_inside inside, Bool.false_eq_true, if_true, if_false]
  rw [ends]
  exact ⟨true && !gap.crossesLine, column + 1, by simp [ScalarScan.precede]⟩

/-- A backslash hands over to the character after it. -/
theorem read_double_backslash (inside : 0 < column) (breakFree : isBreak d = false) :
    readDouble? gap 0 0 column ('\\' :: d :: text) =
      if escapeWidth d = 0 then
        (simpleEscape? d).bind fun char =>
          (readDouble? Gap.none 0 0 (column + 2) text).map (.precede gap [char])
      else readDouble? gap (escapeWidth d) 0 (column + 2) text := by
  rw [readDouble?, if_neg (by decide), if_neg (by decide),
    if_neg (by simp [Cursor.not_marker_inside inside]), if_neg (by decide), if_pos rfl,
    if_neg (by simp [breakFree])]
  rfl

theorem read_double_letter (inside : 0 < column) (breakFree : isBreak d = false)
    (letter : escapeWidth d = 0) (escape : simpleEscape? d = some c) :
    readDouble? gap 0 0 column ('\\' :: d :: text) =
      (readDouble? Gap.none 0 0 (column + 2) text).map (.precede gap [c]) := by
  rw [read_double_backslash inside breakFree, if_pos letter, escape, Option.bind_some]

theorem read_double_code (inside : 0 < column) (breakFree : isBreak d = false)
    (someDigits : escapeWidth d ≠ 0) (small : c.toNat < Nat.pow 16 (escapeWidth d)) :
    readDouble? gap 0 0 column ('\\' :: d :: (hexDigits (escapeWidth d) c.toNat ++ text)) =
      (readDouble? Gap.none 0 0 (column + 2 + escapeWidth d) text).map (.precede gap [c]) := by
  have nonempty : hexDigits (escapeWidth d) c.toNat ≠ [] := by
    intro empty
    rw [← hex_digits_length (escapeWidth d) c.toNat, empty] at someDigits
    exact someDigits rfl
  have numeral := (Text.numeral_value_iff (by decide)).mpr (hex_digits_numeral small)
  have read (place : Nat) : readDouble? gap (hexDigits (escapeWidth d) c.toNat).length 0 place
      (hexDigits (escapeWidth d) c.toNat ++ text) = _ :=
    read_double_digits nonempty numeral (Literal.scalar_to_nat c)
  rw [hex_digits_length] at read
  rw [read_double_backslash inside breakFree, if_neg someDigits, read]

/-- Every character other than a space is read back from its own characters. -/
theorem read_double_char (inside : 0 < column) (space : c ≠ ' ') :
    ∃ place, 0 < place ∧ readDouble? gap 0 0 column (escapeChar c ++ text) =
      (readDouble? Gap.none 0 0 place text).map (.precede gap [c]) := by
  have below : c.toNat < Nat.pow 16 8 := by
    have valid : c.toNat.isValidChar := c.valid
    have bound : Nat.pow 16 8 = 4294967296 := by decide
    rw [bound]
    rcases valid with low | high
    all_goals omega
  unfold escapeChar
  split
  case h_15 null bell back tab feed vertical form carriage escape quote backslash next line para =>
    by_cases printable : isPrintable c = true
    · have breakFree : isBreak c = false := by
        simp only [isBreak, Bool.or_eq_false_iff, decide_eq_false_iff_not]
        exact ⟨⟨⟨⟨feed, carriage⟩, next⟩, line⟩, para⟩
      have blankFree : isBlank c = false := by
        simp only [isBlank, Bool.or_eq_false_iff, decide_eq_false_iff_not]
        exact ⟨space, tab⟩
      rw [if_pos printable]
      exact ⟨column + 1, by omega, read_double_cons breakFree blankFree inside quote backslash⟩
    · -- The three widths differ only in how many digits hold the code point.
      have two : Nat.pow 16 2 = 256 := by decide
      have four : Nat.pow 16 4 = 65536 := by decide
      rw [if_neg printable]
      split
      · exact ⟨_, by omega, read_double_code (d := 'x') inside rfl (by decide)
          (show c.toNat < Nat.pow 16 2 by omega)⟩
      · split
        · exact ⟨_, by omega, read_double_code (d := 'u') inside rfl (by decide)
            (show c.toNat < Nat.pow 16 4 by omega)⟩
        · exact ⟨_, by omega, read_double_code (d := 'U') inside rfl (by decide) below⟩
  all_goals exact ⟨column + 2, by omega, read_double_letter inside rfl rfl rfl⟩

theorem read_double_written (inside : 0 < column) (pending : List Char) :
    Closes (readDouble? (.blanks pending) 0 0 column (text.flatMap escapeChar ++ '\x22' :: tail))
      (pending.reverse ++ text) tail := by
  induction text generalizing pending column with
  | nil =>
      rw [List.append_nil]
      exact read_double_close inside
  | cons c text induction =>
      rw [List.flatMap_cons, List.append_assoc]
      by_cases space : c = ' '
      · subst space
        have written : escapeChar ' ' = [' '] := by decide
        rw [written, List.singleton_append, read_double_blank (by decide) (by decide)]
        simpa [Gap.addBlank] using induction (Nat.succ_pos column) (' ' :: pending)
      · obtain ⟨place, within, same⟩ := @read_double_char c column
          (text.flatMap escapeChar ++ '\x22' :: tail) (.blanks pending) inside space
        rw [same]
        simpa [Gap.fold, Gap.none] using (induction within []).precede (.blanks pending) [c]

end LiteralFlow.Yaml
