import LiteralFlow.Proofs.Yaml.LiteralBlock
import LiteralFlow.Proofs.Yaml.QuotedScalar
import LiteralFlow.Yaml.Reader

/-!
Entries of block mappings read back. Whatever style a text is written in, the
reader finds the text as the value of its key, and then the next key.
-/

namespace LiteralFlow.Yaml

variable {c : Char} {indent column fuel : Nat} {text rest key written : List Char}
  {next : Cursor} {value : Scalar}

/-! ## Written characters -/

theorem printable_of_ascii (lower : 0x20 ≤ c.toNat) (upper : c.toNat ≤ 0x7e) :
    isPrintable c = true := by
  simp [isPrintable, lower, upper]

theorem printable_of_key_char (character : isKeyChar c = true) : isPrintable c = true := by
  simp only [isKeyChar, Char.isDigit, Bool.or_eq_true, Bool.and_eq_true, decide_eq_true_eq,
    ge_iff_le, UInt32.le_iff_toNat_le] at character
  rcases character with (digit | letter) | rfl
  · have lower : 48 ≤ c.toNat := digit.1
    have upper : c.toNat ≤ 57 := digit.2
    exact printable_of_ascii (by omega) (by omega)
  · exact printable_of_ascii (by omega) (by omega)
  · decide

theorem hex_digits_printable (width value : Nat) :
    ∀ c ∈ hexDigits width value, isPrintable c = true := by
  induction width generalizing value with
  | zero => simp [hexDigits]
  | succ width induction =>
      have digit : ∀ digit < 16, isPrintable (Nat.digitChar digit).toUpper = true := by decide
      intro c member
      rcases List.mem_append.mp member with before | last
      · exact induction _ c before
      · rw [List.mem_singleton.mp last]
        exact digit _ (Nat.mod_lt _ (by decide))

theorem escape_printable (c : Char) : ∀ d ∈ escapeChar c, isPrintable d = true := by
  have code : ∀ letter width, isPrintable letter = true →
      ∀ d ∈ '\\' :: letter :: hexDigits width c.toNat, isPrintable d = true := by
    intro letter width printable
    exact List.forall_mem_cons.mpr ⟨rfl, List.forall_mem_cons.mpr
      ⟨printable, hex_digits_printable width c.toNat⟩⟩
  unfold escapeChar
  split
  case h_15 =>
    split
    · rename_i printable
      simpa using printable
    · split
      · exact code 'x' 2 rfl
      · split
        · exact code 'u' 4 rfl
        · exact code 'U' 8 rfl
  all_goals exact List.all_eq_true.mp rfl

theorem indentation_printable (indented : Bool) :
    ∀ c ∈ if indented then bodyIndent else [], isPrintable c = true := by
  cases indented with
  | false => exact List.all_eq_true.mp rfl
  | true => exact List.all_eq_true.mp rfl

theorem single_body_printable (after : Bool) (printable : ∀ c ∈ text, isPrintable c = true) :
    ∀ c ∈ singleBody after text, isPrintable c = true := by
  induction text generalizing after with
  | nil => exact indentation_printable after
  | cons c text induction =>
      have ⟨first, others⟩ := List.forall_mem_cons.mp printable
      rw [singleBody]
      split
      · exact List.forall_mem_cons.mpr ⟨first, induction true others⟩
      · rw [List.forall_mem_append, List.forall_mem_append]
        refine ⟨⟨indentation_printable after, ?_⟩, induction false others⟩
        split
        · exact List.all_eq_true.mp rfl
        · simpa using first

theorem literal_header_printable (text : List Char) :
    ∀ c ∈ literalHeader text, isPrintable c = true := by
  unfold literalHeader
  rw [List.forall_mem_append]
  constructor
  · split
    · split
      all_goals exact List.all_eq_true.mp rfl
    · exact List.all_eq_true.mp rfl
  · split
    · exact List.all_eq_true.mp rfl
    · split
      all_goals exact List.all_eq_true.mp rfl
    · split
      · exact List.all_eq_true.mp rfl
      · split
        all_goals exact List.all_eq_true.mp rfl

theorem literal_body_printable (lineStart : Bool) (printable : ∀ c ∈ text, isPrintable c = true) :
    ∀ c ∈ literalBody lineStart text, isPrintable c = true := by
  induction text generalizing lineStart with
  | nil =>
      cases lineStart with
      | true => exact List.all_eq_true.mp rfl
      | false => exact List.all_eq_true.mp rfl
  | cons c text induction =>
      have ⟨first, others⟩ := List.forall_mem_cons.mp printable
      rw [literalBody]
      split
      · exact List.forall_mem_cons.mpr ⟨first, induction true others⟩
      · rw [List.forall_mem_append]
        exact ⟨indentation_printable lineStart,
          List.forall_mem_cons.mpr ⟨first, induction false others⟩⟩

theorem lineable_printable (lineable : isLineable text = true) :
    ∀ c ∈ text, isPrintable c = true := by
  simp only [isLineable, Bool.and_eq_true, List.all_eq_true] at lineable
  exact lineable.1

/-- What the choice of a style says about the text. -/
theorem style_cases (text : List Char) :
    (styleOf text = .plain ∧ Plain.isTyped text = false ∧ allowsPlain text = true) ∨
      (styleOf text = .single ∧ '\n' ∉ text ∧ allowsSingle text = true) ∨
        styleOf text = .double ∨
          (styleOf text = .literal ∧ text ≠ [] ∧ allowsLiteral text = true) := by
  unfold styleOf
  by_cases feed : '\n' ∈ text
  · by_cases allowed : allowsLiteral text = true
    · simp [feed, allowed, List.ne_nil_of_mem feed]
    · simp [feed, allowed]
  · by_cases plain : (!Plain.isTyped text && allowsPlain text) = true
    · simp only [Bool.and_eq_true, Bool.not_eq_true'] at plain
      simp [feed, plain]
    · by_cases allowed : allowsSingle text = true
      · simp [feed, plain, allowed]
      · simp [feed, plain, allowed]

theorem write_scalar_printable (text : List Char) :
    ∀ c ∈ writeScalar text, isPrintable c = true := by
  rcases style_cases text with
    ⟨style, -, allowed⟩ | ⟨style, -, allowed⟩ | style | ⟨style, -, allowed⟩
  · have lineable : isLineable text = true := by
      simp only [allowsPlain, Bool.and_eq_true] at allowed
      exact allowed.1.1.1.1.1
    rw [writeScalar, style]
    simp only [List.forall_mem_append]
    exact ⟨lineable_printable lineable, List.all_eq_true.mp rfl⟩
  · have lineable : isLineable text = true := by
      simp only [allowsSingle, Bool.and_eq_true] at allowed
      exact allowed.1
    rw [writeScalar, style]
    simp only [List.forall_mem_append, List.cons_append, List.forall_mem_cons]
    exact ⟨rfl, single_body_printable false (lineable_printable lineable), rfl, rfl, by simp⟩
  · rw [writeScalar, style]
    simp only [List.forall_mem_append, List.cons_append, List.forall_mem_cons]
    refine ⟨rfl, ?_, rfl, rfl, by simp⟩
    intro d member
    obtain ⟨c, -, escaped⟩ := List.mem_flatMap.mp member
    exact escape_printable c d escaped
  · have lineable : isLineable text = true := by
      simp only [allowsLiteral, Bool.and_eq_true] at allowed
      exact allowed.1
    rw [writeScalar, style]
    simp only [List.forall_mem_append, List.cons_append, List.forall_mem_cons]
    exact ⟨rfl, literal_header_printable text, rfl,
      literal_body_printable true (lineable_printable lineable)⟩

/-! ## Values -/

/-- After a key in column `indent` the reader finds `value` in the written text,
and then the next key, whatever follows. -/
def ReadsAs (indent : Nat) (written : List Char) (value : Scalar) : Prop :=
  ∀ fuel column rest next, indent < column → Resumes rest next → next.column ≤ indent →
    ∃ scan, readValue? indent (fuel + 1) ⟨column, ' ' :: (written ++ rest)⟩ = some scan ∧
      scan.node = .scalar value ∧ scan.cursor.skip false scan.fresh = (true, next)

/-- A value in the line of its key starts after one space. -/
theorem skip_to_value (breakFree : isBreak c = false) (blankFree : isBlank c = false)
    (sign : c ≠ '#') (byteMark : c ≠ orderMark) :
    Cursor.skip ⟨column, ' ' :: c :: text⟩ false false = (false, ⟨column + 1, c :: text⟩) :=
  (skip_spaces false false 1 column (c :: text)).trans
    (skip_stops breakFree blankFree sign byteMark)

theorem read_value_literal :
    readValue? indent (fuel + 1) ⟨column, ' ' :: '|' :: text⟩ =
      (readBlockScalar? false (indent + 1) text).bind fun result =>
        some ⟨.scalar ⟨false, result.1⟩, true, result.2⟩ := by
  rw [readValue?, skip_to_value (by decide) (by decide) (by decide) (by decide)]
  rfl

theorem read_value_scalar (breakFree : isBreak c = false) (blankFree : isBlank c = false)
    (sign : c ≠ '#') (byteMark : c ≠ orderMark) (literal : c ≠ '|') (folded : c ≠ '>')
    (brace : c ≠ '\x7b') :
    readValue? indent (fuel + 1) ⟨column, ' ' :: c :: text⟩ =
      (readScalar? false (indent + 1) ⟨column + 1, c :: text⟩).bind fun result =>
        some (.ofScalar result.1 result.2) := by
  rw [readValue?, skip_to_value breakFree blankFree sign byteMark]
  simp [Cursor.not_marker_inside, literal, folded, brace]

/-- The parts of `allowsPlain`. -/
theorem allows_plain_iff :
    allowsPlain text = true ↔ isLineable text = true ∧ (∀ c ∈ text, isBreak c = false) ∧
      text.head? ≠ some ' ' ∧ text.getLast? ≠ some ' ' ∧ startsOtherToken text = false ∧
        hasPlainEnd text = false := by
  simp [allowsPlain, and_assoc]

theorem reads_as_plain (allowed : allowsPlain text = true) :
    ReadsAs indent (text ++ ['\n']) ⟨true, text⟩ := by
  intro fuel column rest next deep resumes outside
  obtain ⟨lineable, breakFree, space, last, token, endless⟩ := allows_plain_iff.mp allowed
  have printable := lineable_printable lineable
  cases text with
  | nil => simp [startsOtherToken] at token
  | cons c text =>
      have first := printable c (by simp)
      have blankFree : isBlank c = false := by
        by_cases blank : isBlank c = true
        · exact absurd (congrArg some (eq_space_of_blank first blank)) space
        · simpa using blank
      have starts : startsPlain false c (text ++ '\n' :: rest) = true :=
        starts_plain_of_token token blankFree (breakFree c (by simp))
      have other : ∀ mark, startsPlain false mark (text ++ '\n' :: rest) = false → c ≠ mark := by
        rintro mark never rfl
        exact Bool.false_ne_true (never.symm.trans starts)
      have read : readPlain? false (indent + 1) Gap.none (column + 1) (c :: text ++ '\n' :: rest) =
          some ⟨c :: text, true, true, next⟩ :=
        read_plain_written resumes (by omega) [] (by omega)
          (fun d member => ⟨printable d member, breakFree d member⟩) last endless
          (fun waiting => absurd rfl waiting) (fun _ => rfl)
      refine ⟨⟨.scalar ⟨true, c :: text⟩, true, next⟩, ?_, rfl, resumes.skip_next⟩
      rw [List.append_assoc, List.singleton_append, List.cons_append,
        read_value_scalar (breakFree c (by simp)) blankFree (other _ rfl)
          (ne_of_printable first (by decide)) (other _ rfl) (other _ rfl) (other _ rfl),
        readScalar?, if_neg (other _ rfl), if_neg (other _ rfl), if_pos starts]
      rw [List.cons_append] at read
      rw [read]
      rfl

theorem reads_as_single (feedless : '\n' ∉ text) (allowed : allowsSingle text = true) :
    ReadsAs indent ('\x27' :: singleBody false text ++ ['\x27', '\n']) ⟨false, text⟩ := by
  intro fuel column rest next deep resumes outside
  simp only [allowsSingle, Bool.and_eq_true, Bool.not_eq_true'] at allowed
  obtain ⟨lineable, behind⟩ := allowed
  have before : hasPair isSpace isBreak text = false := by
    simp only [isLineable, Bool.and_eq_true, Bool.not_eq_true'] at lineable
    exact lineable.2
  have start : SingleGap false Gap.none text := .blanks [] text fun waiting => absurd rfl waiting
  obtain ⟨oneLine, place, read⟩ := @read_single_written (column + 2) text ('\n' :: rest) Gap.none
    false start (fun _ => by omega) (lineable_printable lineable) feedless before behind (by simp)
  refine ⟨⟨.scalar ⟨false, text⟩, false, ⟨place, '\n' :: rest⟩⟩, ?_, rfl, resumes.skip_break place⟩
  simp only [List.cons_append, List.append_assoc, List.nil_append]
  rw [read_value_scalar (by decide) (by decide) (by decide) (by decide) (by decide) (by decide)
    (by decide), readScalar?, if_pos rfl, read]
  rfl

theorem reads_as_double :
    ReadsAs indent ('\x22' :: text.flatMap escapeChar ++ ['\x22', '\n']) ⟨false, text⟩ := by
  intro fuel column rest next deep resumes outside
  obtain ⟨oneLine, place, read⟩ :=
    @read_double_written (column + 2) text ('\n' :: rest) (by omega) []
  refine ⟨⟨.scalar ⟨false, text⟩, false, ⟨place, '\n' :: rest⟩⟩, ?_, rfl, resumes.skip_break place⟩
  simp only [List.cons_append, List.append_assoc, List.nil_append]
  rw [read_value_scalar (by decide) (by decide) (by decide) (by decide) (by decide) (by decide)
    (by decide), readScalar?, if_neg (by decide), if_pos rfl, Gap.none, read]
  rfl

theorem reads_as_literal (someText : text ≠ []) (allowed : allowsLiteral text = true) :
    ReadsAs 2 ('|' :: literalHeader text ++ '\n' :: literalBody true text) ⟨false, text⟩ := by
  intro fuel column rest next deep resumes outside
  have lineable : isLineable text = true := by
    simp only [allowsLiteral, Bool.and_eq_true] at allowed
    exact allowed.1
  refine ⟨⟨.scalar ⟨false, text⟩, true, next⟩, ?_, rfl, resumes.skip_next⟩
  rw [List.cons_append, List.cons_append, List.append_assoc, List.cons_append, read_value_literal,
    read_literal_written resumes (by omega) someText (lineable_printable lineable)]
  rfl

/-- Text is read back in every style. -/
theorem reads_as_written (text : List Char) :
    ReadsAs 2 (writeScalar text) ⟨styleOf text = .plain, text⟩ := by
  rcases style_cases text with
    ⟨style, -, allowed⟩ | ⟨style, feedless, allowed⟩ | style | ⟨style, someText, allowed⟩
  all_goals rw [writeScalar, style]
  · exact reads_as_plain allowed
  · exact reads_as_single feedless allowed
  · exact reads_as_double
  · exact reads_as_literal someText allowed

/-- A text of key characters is written as it is. -/
theorem allows_plain_of_key_chars (nonempty : text ≠ [])
    (characters : ∀ c ∈ text, isKeyChar c = true) : allowsPlain text = true := by
  have spaceless : ' ' ∉ text := fun member => absurd (characters ' ' member) (by decide)
  have pairless : hasPair isSpace isBreak text = false := by
    induction text with
    | nil => rfl
    | cons c text induction =>
        cases text with
        | nil => rfl
        | cons d text =>
            have later := induction (by simp) (fun e member => characters e (by simp [member]))
              (fun member => spaceless (by simp [member]))
            simp [hasPair, later, not_break_of_key_char (characters d (by simp))]
  have endless : hasPlainEnd text = false := by
    clear pairless spaceless nonempty
    induction text with
    | nil => rfl
    | cons c text induction =>
        have colon : c ≠ ':' := ne_of_key_char (characters c (by simp)) (by decide)
        cases text with
        | nil => simp [hasPlainEnd, colon]
        | cons d text =>
            have later := induction fun e member => characters e (by simp [member])
            have sign : d ≠ '#' := ne_of_key_char (characters d (by simp)) (by decide)
            simp [hasPlainEnd, colon, sign, later]
  refine allows_plain_iff.mpr ⟨?_, fun c member => not_break_of_key_char (characters c member),
    fun first => spaceless (List.mem_of_mem_head? first),
    fun last => spaceless (List.mem_of_mem_getLast? last), ?_, endless⟩
  · simpa [isLineable, pairless] using fun c member => printable_of_key_char (characters c member)
  · obtain ⟨c, text, rfl⟩ := List.exists_cons_of_ne_nil nonempty
    have first := characters c (by simp)
    have other : ∀ mark, isKeyChar mark = false → c ≠ mark := fun mark => ne_of_key_char first
    unfold startsOtherToken
    split
    · rename_i same
      exact absurd (List.cons.inj same).1 (other '-' rfl)
    · rename_i same
      exact absurd (List.cons.inj same).1 (other '.' rfl)
    · rename_i same
      cases same
      rw [if_neg (by simp [other '-' rfl, other '?' rfl, other ':' rfl])]
      exact not_indicator_of_key_char first
    · rename_i empty
      cases empty

/-! ## Entries -/

structure IsKeyText (key : List Char) : Prop where
  nonempty : key ≠ []
  characters : ∀ c ∈ key, isKeyChar c = true
  short : key.length ≤ keyReach

theorem is_key_text (nonempty : key ≠ []) (characters : key.all isKeyChar = true)
    (short : key.length ≤ keyReach) : IsKeyText key :=
  ⟨nonempty, List.all_eq_true.mp characters, short⟩

theorem IsKeyText.printable (named : IsKeyText key) : ∀ c ∈ key, isPrintable c = true :=
  fun c member => printable_of_key_char (named.characters c member)

theorem read_key_written (named : IsKeyText key) (ends : endsToken text = true) :
    readKey? indent ⟨column, key ++ ':' :: text⟩ =
      some (⟨true, key⟩, ⟨column + key.length + 1, text⟩) := by
  have read := @read_plain_key (indent + 1) column text key named.characters ends
  obtain ⟨c, front, rfl⟩ := List.exists_cons_of_ne_nil named.nonempty
  have first := named.characters c (by simp)
  have other : ∀ mark, isKeyChar mark = false → c ≠ mark := fun mark => ne_of_key_char first
  have starts : startsPlain false c (front ++ ':' :: text) = true := by
    simp [startsPlain, other '-' rfl, other '?' rfl, other ':' rfl, not_indicator_of_key_char first,
      not_blank_of_key_char first, not_break_of_key_char first]
  have short : front.length + 1 ≤ keyReach := named.short
  rw [List.cons_append] at read ⊢
  rw [readKey?, readScalar?, if_neg (other _ rfl), if_neg (other _ rfl), if_pos starts, read]
  simp only [Option.map_some, Option.bind_eq_bind, Option.bind_some]
  have colon : ∀ place, Cursor.skipBlanks ⟨place, ':' :: text⟩ = ⟨place, ':' :: text⟩ :=
    fun place => rfl
  simp [colon, isKey, ends, short]

theorem read_entries_step (named : IsKeyText key) (reads : ReadsAs indent written value)
    (resumes : Resumes rest next) (outside : next.column ≤ indent) :
    readEntries? indent (fuel + 2) ⟨indent, key ++ ':' :: ' ' :: (written ++ rest)⟩ =
      if next.rest.isEmpty || next.column < indent then
        some ([(⟨true, key⟩, .scalar value)], true, next)
      else if next.column = indent then
        (readEntries? indent (fuel + 1) next).map fun result =>
          ((⟨true, key⟩, .scalar value) :: result.1, result.2)
      else none := by
  obtain ⟨scan, read, node, skips⟩ :=
    reads fuel (indent + key.length + 1) rest next (by omega) resumes outside
  rw [readEntries?, read_key_written named rfl]
  simp only [Option.bind_eq_bind, Option.bind_some, read, skips, node, resumes.not_marker,
    Bool.or_false, Bool.true_and, decide_eq_true_eq]
  split
  · rfl
  · split
    · cases readEntries? indent (fuel + 1) next with
      | none => rfl
      | some result => rfl
    · rfl

/-- The last entry of a document. -/
theorem read_entries_last (named : IsKeyText key) (reads : ReadsAs indent written value) :
    readEntries? indent (fuel + 2) ⟨indent, key ++ ':' :: ' ' :: written⟩ =
      some ([(⟨true, key⟩, .scalar value)], true, ⟨0, []⟩) := by
  have step := @read_entries_step indent fuel [] key written ⟨0, []⟩ value named reads .finish
    (Nat.zero_le indent)
  rw [List.append_nil] at step
  exact step

/-- An entry before another one of its mapping. -/
theorem read_entries_next (named : IsKeyText key) (reads : ReadsAs indent written value)
    (first : isKeyChar c = true) :
    readEntries? indent (fuel + 2)
        ⟨indent, key ++ ':' :: ' ' :: (written ++ (List.replicate indent ' ' ++ c :: text))⟩ =
      (readEntries? indent (fuel + 1) ⟨indent, c :: text⟩).map fun result =>
        ((⟨true, key⟩, .scalar value) :: result.1, result.2) := by
  rw [read_entries_step named reads (.line indent first text) (Nat.le_refl indent)]
  simp

/-- The last entry of a document, if its value is a mapping with deeper keys. -/
theorem read_entries_nested {depth : Nat} {inner : List Char} {entries : List (Scalar × Node)}
    (named : IsKeyText key) (innerNamed : IsKeyText inner) (deeper : indent < depth)
    (ends : endsToken text = true)
    (read : readEntries? depth fuel ⟨depth, inner ++ ':' :: text⟩ = some (entries, true, ⟨0, []⟩)) :
    readEntries? indent (fuel + 2)
        ⟨indent, key ++ ':' :: '\n' :: (List.replicate depth ' ' ++ (inner ++ ':' :: text))⟩ =
      some ([(⟨true, key⟩, .mapping entries)], true, ⟨0, []⟩) := by
  have keyFound : (readKey? indent ⟨depth, inner ++ ':' :: text⟩).isSome = true := by
    rw [read_key_written innerNamed ends]
    rfl
  obtain ⟨c, front, rfl⟩ := List.exists_cons_of_ne_nil innerNamed.nonempty
  have first := innerNamed.characters c (by simp)
  have other : ∀ mark, isKeyChar mark = false → c ≠ mark := fun mark => ne_of_key_char first
  rw [List.cons_append] at read keyFound ⊢
  have resumes : Resumes _ ⟨depth, c :: (front ++ ':' :: text)⟩ := .line depth first _
  have below : ¬ depth < indent ∧ depth ≠ indent := by omega
  have value : readValue? indent (fuel + 1)
      ⟨indent + key.length + 1, '\n' :: (List.replicate depth ' ' ++ c :: (front ++ ':' :: text))⟩ =
        some ⟨.mapping entries, true, ⟨0, []⟩⟩ := by
    rw [readValue?, resumes.skip_break]
    simp [resumes.not_marker, below, other '|' rfl, other '>' rfl, other '\x7b' rfl, keyFound, read]
  rw [readEntries?, read_key_written named rfl]
  simp only [Option.bind_eq_bind, Option.bind_some, value]
  rfl

end LiteralFlow.Yaml
