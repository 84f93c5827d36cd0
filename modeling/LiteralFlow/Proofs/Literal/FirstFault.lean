import LiteralFlow.Proofs.Literal.Unquote

/-!
Why a quoted literal cannot be decoded. Its units are read from the left, and the first
place at which no unit starts decides the error: a mark or a line break there is a
delimiter, and a backslash is reported at its offset. Only a body that is units
throughout is refused for what they are together.
-/

namespace LiteralFlow.Literal

/-- The first place of a body at which no unit starts: it holds `first`, with `front` before
it, which is divided into units, and `tail` behind it. -/
structure FirstFault (quote : Char) (body front : List Char) (first : Char) (tail : List Char) :
    Prop where
  joined : body = front ++ first :: tail
  divided : ∃ parts, Divides quote front parts
  stuck : ∀ spelling unit after, first :: tail = spelling ++ after → ¬ Spells quote spelling unit

def UnitFault.StandsAt (quote : Char) : UnitFault → Char → Prop
  | delimiter, c => c = quote ∨ c = '\n'
  | escape, c => c = '\\'

variable {quote first first' : Char} {body front front' rest tail tail' : List Char}
  {unit : QuotedUnit} {fault : UnitFault}

/-- A place where reading fails starts no unit, and its character tells the fault. -/
theorem next_unit_eq_error_iff (mark : IsEscapingMark quote) :
    nextUnit quote first rest = .error fault ↔
      (∀ spelling unit after, first :: rest = spelling ++ after → ¬ Spells quote spelling unit) ∧
        fault.StandsAt quote first := by
  constructor
  · intro failed
    refine ⟨?_, ?_⟩
    · intro spelling unit after starts spelled
      obtain ⟨first', rest', joined, read⟩ := next_unit_complete mark spelled after
      rw [← starts] at joined
      cases joined
      rw [failed] at read
      cases read
    · unfold nextUnit at failed
      split at failed
      · rename_i delimiter
        cases failed
        exact delimiter
      · split at failed
        · rename_i backslash
          split at failed
          · cases failed
          · cases failed
            exact backslash
        · cases failed
  · intro described
    rcases described with ⟨stuck, stands⟩
    cases read : nextUnit quote first rest with
    | ok step =>
        obtain ⟨spelling, starts, spelled⟩ := next_unit_sound mark read
        exact absurd spelled (stuck spelling step.1 step.2 starts)
    | error fault' =>
        cases fault with
        | delimiter =>
            have closing : first = quote ∨ first = '\n' := stands
            rw [nextUnit, if_pos closing] at read
            exact read.symm
        | escape =>
            have backslash : first = '\\' := stands
            have inside : ¬ (first = quote ∨ first = '\n') := by
              rw [backslash]
              rcases mark with rfl | rfl <;> decide
            rw [nextUnit, if_neg inside, if_pos backslash] at read
            split at read
            · cases read
            · exact read.symm

theorem read_units_fault (failed : nextUnit quote first rest = .error fault) :
    readUnits quote (first :: rest) = .error (fault, first :: rest) := by
  rw [readUnits]
  split
  · rename_i found
    rw [failed] at found
    cases found
    rfl
  · rename_i found
    rw [failed] at found
    cases found

theorem read_units_later_fault {error : UnitFault × List Char}
    (read : nextUnit quote first rest = .ok (unit, tail))
    (later : readUnits quote tail = .error error) :
    readUnits quote (first :: rest) = .error error := by
  rw [readUnits]
  split
  · rename_i failed
    rw [read] at failed
    cases failed
  · rename_i found
    rw [read] at found
    cases found
    rw [later]

/-- Reading that fails has come to the first fault of the body. -/
theorem first_fault_of_read (mark : IsEscapingMark quote)
    (read : readUnits quote body = .error (fault, rest)) :
    ∃ front first tail, rest = first :: tail ∧ FirstFault quote body front first tail := by
  fun_induction readUnits quote body with
  | case1 => cases read
  | case2 first after fault' failed =>
      cases read
      exact ⟨[], first, after, rfl, rfl, ⟨[], .nil⟩, ((next_unit_eq_error_iff mark).mp failed).1⟩
  | case3 first after unit tail found error later induction =>
      cases read
      obtain ⟨front, first', tail', rfl, joined, ⟨parts, divided⟩, stuck⟩ := induction later
      obtain ⟨spelling, starts, spelled⟩ := next_unit_sound mark found
      refine ⟨spelling ++ front, first', tail', rfl, ?_, ⟨_, divided.cons spelled⟩, stuck⟩
      rw [starts, joined, List.append_assoc]
  | case4 => cases read

namespace FirstFault

/-- The first fault is a mark, a line break or a backslash, and reading stops at it. -/
theorem read_units (mark : IsEscapingMark quote) (found : FirstFault quote body front first tail) :
    ∃ fault : UnitFault, fault.StandsAt quote first ∧
      readUnits quote body = .error (fault, first :: tail) := by
  obtain ⟨rfl, ⟨parts, divided⟩, stuck⟩ := found
  have failed : ∃ fault, nextUnit quote first tail = .error fault := by
    cases read : nextUnit quote first tail with
    | error fault => exact ⟨fault, rfl⟩
    | ok step =>
        obtain ⟨spelling, starts, spelled⟩ := next_unit_sound mark read
        exact absurd spelled (stuck spelling step.1 step.2 starts)
  obtain ⟨fault, failed⟩ := failed
  refine ⟨fault, ((next_unit_eq_error_iff mark).mp failed).2, ?_⟩
  -- The units before the fault are read one by one.
  induction parts generalizing front with
  | nil =>
      rw [← divided.joined]
      exact read_units_fault failed
  | cons part parts induction =>
      obtain ⟨after, rfl, spelled, others⟩ := divided.head
      obtain ⟨next, following, starts, read⟩ :=
        next_unit_complete mark spelled (after ++ first :: tail)
      rw [List.append_assoc, starts]
      exact read_units_later_fault read (induction others)

theorem unique (mark : IsEscapingMark quote) (found : FirstFault quote body front first tail)
    (found' : FirstFault quote body front' first' tail') :
    front = front' ∧ first = first' ∧ tail = tail' := by
  obtain ⟨fault, -, read⟩ := found.read_units mark
  obtain ⟨fault', -, read'⟩ := found'.read_units mark
  rw [read] at read'
  cases read'
  have joined := found.joined
  rw [found'.joined] at joined
  exact ⟨(List.append_cancel_right joined).symm, rfl, rfl⟩

theorem not_divided (mark : IsEscapingMark quote) (found : FirstFault quote body front first tail)
    (parts : List (List Char × QuotedUnit)) : ¬ Divides quote body parts := by
  intro divided
  obtain ⟨fault, -, read⟩ := found.read_units mark
  rw [(read_units_eq_ok_iff mark).mpr ⟨parts, divided, rfl⟩] at read
  cases read

end FirstFault

theorem divided_or_fault (mark : IsEscapingMark quote) (body : List Char) :
    (∃ parts, Divides quote body parts) ∨
      ∃ front first tail, FirstFault quote body front first tail := by
  cases read : readUnits quote body with
  | ok units =>
      obtain ⟨parts, divided, -⟩ := (read_units_eq_ok_iff mark).mp read
      exact .inl ⟨parts, divided⟩
  | error error =>
      obtain ⟨front, first, tail, -, found⟩ := first_fault_of_read mark read
      exact .inr ⟨front, first, tail, found⟩

/-- The offset of a fault lies before the end of the body and divides no character. -/
theorem FirstFault.offset (found : FirstFault quote body front first tail) :
    Text.byteLength front < Text.byteLength body ∧
      (String.Pos.Raw.mk (Text.byteLength front)).IsValid (String.ofList body) := by
  have positive := first.utf8Size_pos
  constructor
  · rw [found.joined, Text.byte_length_append, Text.byteLength]
    omega
  · exact Text.boundary_iff.mpr ⟨front, first :: tail, found.joined, rfl⟩

section Unquote

variable {literal : String} {mark : Quote} {error : QuoteError}
  {parts : List (List Char × QuotedUnit)}

theorem Quote.is_escaping_mark (escaping : mark ≠ .back) : IsEscapingMark mark.mark := by
  cases mark with
  | back => exact absurd rfl escaping
  | double => exact .inl rfl
  | single => exact .inr rfl

/-- A fault in the units of a body is reported before anything else. -/
theorem unquote_of_fault (escaping : mark ≠ .back)
    (quoted : literal.toList = mark.mark :: body ++ [mark.mark])
    (failed : decodeUnits literal mark body = .error error) : unquote literal = .error error := by
  cases mark with
  | back => exact absurd rfl escaping
  | double =>
      simp only [unquote, quoted, split_quotes_enclosed, failed]
      rfl
  | single =>
      simp only [unquote, quoted, split_quotes_enclosed, failed]
      rfl

theorem unquote_of_first_fault (escaping : mark ≠ .back)
    (quoted : literal.toList = mark.mark :: body ++ [mark.mark])
    (found : FirstFault mark.mark body front first tail) :
    ((first = mark.mark ∨ first = '\n') ∧ unquote literal = .error (.unescapedDelimiter literal)) ∨
      (first = '\\' ∧
        unquote literal = .error (.invalidEscape literal (Text.byteLength front))) := by
  obtain ⟨fault, stands, read⟩ := found.read_units (Quote.is_escaping_mark escaping)
  cases fault with
  | delimiter =>
      refine .inl ⟨stands, unquote_of_fault escaping quoted ?_⟩
      rw [decodeUnits, read]
  | escape =>
      have offset : Text.byteLength body - Text.byteLength (first :: tail) =
          Text.byteLength front := by
        rw [found.joined, Text.byte_length_append, Nat.add_sub_cancel]
      refine .inr ⟨stands, unquote_of_fault escaping quoted ?_⟩
      rw [decodeUnits, read, ← offset]

/-- A body that is units throughout has no fault in them. -/
theorem decode_units_of_divided (escaping : mark ≠ .back)
    (divided : Divides mark.mark body parts) :
    decodeUnits literal mark body = .ok (parts.map Prod.snd) :=
  decode_units_eq_ok_iff.mpr
    ((read_units_eq_ok_iff (Quote.is_escaping_mark escaping)).mpr ⟨parts, divided, rfl⟩)

theorem unquote_double_eq_error_iff
    (quoted : literal.toList = Quote.double.mark :: body ++ [Quote.double.mark])
    (divided : Divides Quote.double.mark body parts) :
    unquote literal = .error error ↔
      error = .invalidUtf8 literal ∧
        ¬ ((parts.map Prod.snd).flatMap QuotedUnit.bytes).toByteArray.IsValidUTF8 := by
  have units : decodeUnits literal .double body = .ok (parts.map Prod.snd) :=
    decode_units_of_divided (by decide) divided
  simp only [unquote, quoted, split_quotes_enclosed, units, bind, Except.bind, String.fromUTF8?]
  split
  · rename_i text valid
    split at valid
    · rename_i isValid
      simp [isValid]
    · cases valid
  · rename_i invalid
    split at invalid
    · cases invalid
    · rename_i isInvalid
      simp [isInvalid, eq_comm]

theorem unquote_single_eq_error_iff
    (quoted : literal.toList = Quote.single.mark :: body ++ [Quote.single.mark])
    (divided : Divides Quote.single.mark body parts) :
    unquote literal = .error error ↔ error = .characterCount literal ∧ parts.length ≠ 1 := by
  have units : decodeUnits literal .single body = .ok (parts.map Prod.snd) :=
    decode_units_of_divided (by decide) divided
  simp only [unquote, quoted, split_quotes_enclosed, units, bind, Except.bind]
  cases parts with
  | nil => simp [eq_comm]
  | cons first others =>
      cases others with
      | nil => simp
      | cons second others => simp [eq_comm]

theorem unquote_raw_eq_error_iff
    (quoted : literal.toList = Quote.back.mark :: body ++ [Quote.back.mark]) :
    unquote literal = .error error ↔
      error = .unescapedDelimiter literal ∧ Quote.back.mark ∈ body := by
  simp only [unquote, quoted, split_quotes_enclosed]
  split
  · rename_i inside
    simp [inside, eq_comm]
  · rename_i outside
    simp [outside]

/-- A body between double or single marks is divided into units, or it has one first fault. A
mark or a line break there is an unescaped delimiter, a backslash is an invalid escape at
its offset, and nothing else can stand there. A body that is divided is refused between
double marks exactly when the bytes of its units are no UTF-8 text, and between single
marks exactly when it has not one unit. A raw literal is refused only for a mark inside. -/
theorem unquote_error_at_first_fault (literal : String) (mark : Quote) (body : List Char)
    (quoted : literal.toList = mark.mark :: body ++ [mark.mark]) :
    (mark ≠ .back →
      ((∃ parts, Divides mark.mark body parts) ∨
        ∃ front first tail, FirstFault mark.mark body front first tail) ∧
      ∀ front first tail, FirstFault mark.mark body front first tail →
        (∀ parts, ¬ Divides mark.mark body parts) ∧
        (∀ front' first' tail', FirstFault mark.mark body front' first' tail' →
          front = front' ∧ first = first' ∧ tail = tail') ∧
        (((first = mark.mark ∨ first = '\n') ∧
            unquote literal = .error (.unescapedDelimiter literal)) ∨
          (first = '\\' ∧
            unquote literal = .error (.invalidEscape literal (Text.byteLength front)))) ∧
        Text.byteLength front < Text.byteLength body ∧
        (String.Pos.Raw.mk (Text.byteLength front)).IsValid (String.ofList body)) ∧
    (∀ parts error, Divides mark.mark body parts →
      (mark = .double → (unquote literal = .error error ↔
        error = .invalidUtf8 literal ∧
          ¬ ((parts.map Prod.snd).flatMap QuotedUnit.bytes).toByteArray.IsValidUTF8)) ∧
      (mark = .single → (unquote literal = .error error ↔
        error = .characterCount literal ∧ parts.length ≠ 1))) ∧
    ∀ error, mark = .back → (unquote literal = .error error ↔
      error = .unescapedDelimiter literal ∧ Quote.back.mark ∈ body) := by
  refine ⟨?_, ?_, ?_⟩
  · intro escaping
    have isMark := Quote.is_escaping_mark escaping
    refine ⟨divided_or_fault isMark body, ?_⟩
    intro front first tail found
    refine ⟨found.not_divided isMark, ?_, unquote_of_first_fault escaping quoted found,
      found.offset⟩
    intro front' first' tail' found'
    exact found.unique isMark found'
  · intro parts error divided
    refine ⟨?_, ?_⟩
    · intro isDouble
      subst isDouble
      exact unquote_double_eq_error_iff quoted divided
    · intro isSingle
      subst isSingle
      exact unquote_single_eq_error_iff quoted divided
  · intro error isBack
    subst isBack
    exact unquote_raw_eq_error_iff quoted

/-- An escape that ends too early, behind a character of two bytes and the escape of a byte;
a byte that is no text alone; two units between single marks; a mark inside a raw body. -/
theorem faulty_literals_refused :
    unquote "\"é\\x41\\u00\"" = .error (.invalidEscape "\"é\\x41\\u00\"" 6) ∧
      unquote "\"\\xff\"" = .error (.invalidUtf8 "\"\\xff\"") ∧
      unquote "'ab'" = .error (.characterCount "'ab'") ∧
      unquote "`a`b`" = .error (.unescapedDelimiter "`a`b`") := by
  have byte : Text.IsNumeral 16 ['4', '1'] 0x41 :=
    ⟨[4, 1], .cons (by simp [Text.IsDigit]) (.cons (by simp [Text.IsDigit]) .nil), by decide⟩
  have highest : Text.IsNumeral 16 ['f', 'f'] 0xff :=
    ⟨[15, 15], .cons (by simp [Text.IsDigit]) (.cons (by simp [Text.IsDigit]) .nil), by decide⟩
  have front : Divides Quote.double.mark ['é', '\\', 'x', '4', '1']
      [(['é'], .char 'é'), (['\\', 'x', '4', '1'], .byte 0x41)] :=
    ⟨rfl, List.forall_mem_cons.mpr ⟨.plain (by decide) (by decide) (by decide),
      List.forall_mem_singleton.mpr (.hexadecimal rfl byte)⟩⟩
  have stuck : nextUnit Quote.double.mark '\\' ['u', '0', '0'] = .error .escape := rfl
  have found : FirstFault Quote.double.mark ['é', '\\', 'x', '4', '1', '\\', 'u', '0', '0']
      ['é', '\\', 'x', '4', '1'] '\\' ['u', '0', '0'] :=
    ⟨rfl, ⟨_, front⟩, ((next_unit_eq_error_iff (.inl rfl)).mp stuck).1⟩
  have lone : Divides Quote.double.mark ['\\', 'x', 'f', 'f']
      [(['\\', 'x', 'f', 'f'], .byte 0xff)] :=
    ⟨rfl, List.forall_mem_singleton.mpr (.hexadecimal rfl highest)⟩
  have pair : Divides Quote.single.mark ['a', 'b'] [(['a'], .char 'a'), (['b'], .char 'b')] :=
    ⟨rfl, List.forall_mem_cons.mpr ⟨.plain (by decide) (by decide) (by decide),
      List.forall_mem_singleton.mpr (.plain (by decide) (by decide) (by decide))⟩⟩
  have escapes := unquote_error_at_first_fault "\"é\\x41\\u00\"" .double
    ['é', '\\', 'x', '4', '1', '\\', 'u', '0', '0'] (by decide)
  have bytes := unquote_error_at_first_fault "\"\\xff\"" .double ['\\', 'x', 'f', 'f'] (by decide)
  have units := unquote_error_at_first_fault "'ab'" .single ['a', 'b'] (by decide)
  have raw := unquote_error_at_first_fault "`a`b`" .back ['a', '\x60', 'b'] (by decide)
  refine ⟨?_, ?_, ?_, ?_⟩
  · rcases ((escapes.1 (by decide)).2 _ _ _ found).2.2.1 with ⟨closing, -⟩ | ⟨-, reported⟩
    · exact absurd closing (by decide)
    · exact reported
  · exact ((bytes.2.1 _ _ lone).1 rfl).mpr ⟨rfl, by decide⟩
  · exact ((units.2.1 _ _ pair).2 rfl).mpr ⟨rfl, by decide⟩
  · exact (raw.2.2 _ rfl).mpr ⟨rfl, by decide⟩

end Unquote

end LiteralFlow.Literal
