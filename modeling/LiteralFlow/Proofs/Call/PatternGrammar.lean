import LiteralFlow.Call.Pattern
import LiteralFlow.Proofs.Text.Cut

/-!
The texts that are patterns. Every pattern is the text of its parts, and parts
that fit one of the three forms are read back from their text. So a text is a
pattern exactly when it has one of the forms, and it has them with one division only.
-/

namespace LiteralFlow.PatternParts

def text : PatternParts → List Char
  | receiver type method => '(' :: type ++ [')', '.'] ++ method
  | pair left right => left ++ ['.'] ++ right
  | single name => name

def Fits : PatternParts → Prop
  | receiver type method => isReceiver type = true ∧ isName method = true
  | pair left right => left ≠ [] ∧ hasParenthesis left = false ∧ isName right = true
  | single name => isName name = true

theorem has_parenthesis_eq_false_iff {text : List Char} :
    hasParenthesis text = false ↔ '(' ∉ text ∧ ')' ∉ text := by
  simp only [hasParenthesis, List.any_eq_false, Bool.or_eq_true, decide_eq_true_eq, not_or]
  constructor
  · intro each
    exact ⟨fun member => (each _ member).1 rfl, fun member => (each _ member).2 rfl⟩
  · intro absent c member
    exact ⟨fun same => absent.1 (same ▸ member), fun same => absent.2 (same ▸ member)⟩

theorem is_name_iff {name : List Char} :
    isName name = true ↔ name ≠ [] ∧ '.' ∉ name ∧ hasParenthesis name = false := by
  simp [isName, and_assoc]

theorem has_parenthesis_append {front back : List Char} :
    hasParenthesis (front ++ back) = (hasParenthesis front || hasParenthesis back) :=
  List.any_append

/-- A text without parentheses is cut at its last dot. -/
theorem read_of_no_parenthesis {text : List Char} (nonempty : text ≠ [])
    (plain : hasParenthesis text = false) :
    read? text = match Text.cutLast? ['.'] text with
      | some (left, right) =>
          if !left.isEmpty && isName right then some (.pair left right) else none
      | none => some (.single text) := by
  unfold read?
  split
  · exact absurd rfl nonempty
  · have unopened := (has_parenthesis_eq_false_iff.mp plain).1
    exact absurd List.mem_cons_self unopened
  · exact if_neg (by simp [plain])

theorem read_text_receiver {type method : List Char}
    (fits : (receiver type method).Fits) :
    read? (receiver type method).text = some (receiver type method) := by
  obtain ⟨isType, isMethod⟩ := fits
  have parenthesis := (has_parenthesis_eq_false_iff.mp (is_name_iff.mp isMethod).2.2).2
  have cut : Text.cutLast? [')', '.'] (type ++ [')', '.'] ++ method) = some (type, method) :=
    Text.cut_last_append (by simpa using parenthesis) type
  simp only [text, List.cons_append, read?, cut, isType, isMethod, Bool.and_self, if_true]

theorem read_text_pair {left right : List Char} (fits : (pair left right).Fits) :
    read? (pair left right).text = some (pair left right) := by
  obtain ⟨nonempty, plain, isRight⟩ := fits
  obtain ⟨-, dot, plainRight⟩ := is_name_iff.mp isRight
  have plainText : hasParenthesis (left ++ ['.'] ++ right) = false := by
    rw [has_parenthesis_append, has_parenthesis_append, plain, plainRight]
    rfl
  have cut : Text.cutLast? ['.'] (left ++ ['.'] ++ right) = some (left, right) :=
    Text.cut_last_append (by simpa using dot) left
  rw [text, read_of_no_parenthesis (by simp) plainText, cut]
  simp [nonempty, isRight]

theorem read_text_single {name : List Char} (fits : (single name).Fits) :
    read? (single name).text = some (single name) := by
  obtain ⟨nonempty, dot, plain⟩ := is_name_iff.mp fits
  rw [text, read_of_no_parenthesis nonempty plain, Text.cut_last_of_not_mem (by simp) dot]

/-- What is read fits its form, and nothing of the text is lost. -/
theorem fits_of_read {source : List Char} {parts : PatternParts}
    (read : read? source = some parts) : parts.text = source ∧ parts.Fits := by
  unfold read? at read
  split at read
  · cases read
  · rename_i rest
    split at read
    · rename_i type method cut
      split at read
      · rename_i fits
        cases read
        rw [Bool.and_eq_true] at fits
        exact ⟨congrArg ('(' :: ·) (Text.eq_of_cut_last cut).symm, fits⟩
      · cases read
    · cases read
  · rename_i notEmpty _
    split at read
    · cases read
    · rename_i plain
      rw [Bool.not_eq_true] at plain
      split at read
      · rename_i left right cut
        have joined := Text.eq_of_cut_last cut
        split at read
        · rename_i fits
          cases read
          simp only [Bool.and_eq_true, Bool.not_eq_true', List.isEmpty_eq_false_iff] at fits
          rw [joined, has_parenthesis_append, has_parenthesis_append, Bool.or_eq_false_iff,
            Bool.or_eq_false_iff] at plain
          exact ⟨joined.symm, fits.1, plain.1.1, fits.2⟩
        · cases read
      · rename_i uncut
        cases read
        exact ⟨rfl, is_name_iff.mpr ⟨notEmpty, Text.not_mem_of_cut_last uncut, plain⟩⟩

/-- A text is a pattern with the given parts when it is their text and they fit. -/
theorem read_eq_some_iff {source : List Char} {parts : PatternParts} :
    read? source = some parts ↔ parts.text = source ∧ parts.Fits := by
  constructor
  · exact fits_of_read
  · intro printed
    rcases printed with ⟨rfl, fits⟩
    cases parts with
    | receiver type method => exact read_text_receiver fits
    | pair left right => exact read_text_pair fits
    | single name => exact read_text_single fits

/-- A receiver is one of the two wildcards, a type, or a type behind a pointer mark. -/
inductive IsReceiverForm : List Char → Prop where
  | any : IsReceiverForm ['*']
  | anyQualified : IsReceiverForm ['*', '.', '*']
  | type {first : Char} {rest : List Char} (star : first ≠ '*') : IsReceiverForm (first :: rest)
  | pointer {first : Char} {rest : List Char} (dot : first ≠ '.') (star : first ≠ '*') :
      IsReceiverForm ('*' :: first :: rest)

/-- The three forms of a pattern and the parts that each of them names. -/
inductive HasForm : List Char → PatternParts → Prop where
  | receiver {type method : List Char} (isType : IsReceiverForm type) (named : method ≠ [])
      (plain : ∀ c ∈ method, c ≠ '.' ∧ c ≠ '(' ∧ c ≠ ')') :
      HasForm ('(' :: type ++ [')', '.'] ++ method) (.receiver type method)
  | pair {left right : List Char} (qualified : left ≠ []) (named : right ≠ [])
      (dotless : '.' ∉ right) (bare : ∀ c ∈ left ++ right, c ≠ '(' ∧ c ≠ ')') :
      HasForm (left ++ ['.'] ++ right) (.pair left right)
  | single {name : List Char} (named : name ≠ [])
      (plain : ∀ c ∈ name, c ≠ '.' ∧ c ≠ '(' ∧ c ≠ ')') : HasForm name (.single name)

theorem is_receiver_iff_form {type : List Char} :
    isReceiver type = true ↔ IsReceiverForm type := by
  constructor
  · intro accepted
    unfold isReceiver at accepted
    split at accepted
    · rename_i any
      rcases any with rfl | rfl
      · exact .any
      · exact .anyQualified
    · split at accepted
      · cases accepted
      · split at accepted
        · cases accepted
        · simp only [ne_eq, decide_not, Bool.and_eq_true, Bool.not_eq_true',
            decide_eq_false_iff_not]
            at accepted
          exact .pointer accepted.1 accepted.2
      · rename_i notEmpty notPointer
        obtain ⟨first, rest, rfl⟩ := List.exists_cons_of_ne_nil notEmpty
        refine .type ?_
        rintro rfl
        exact notPointer rest rfl
  · intro form
    cases form with
    | any => rfl
    | anyQualified => rfl
    | @type first rest star =>
        unfold isReceiver
        split
        · rfl
        · split
          · rename_i empty
            cases empty
          · rename_i same
            exact absurd (List.cons.inj same).1 star
          · rfl
    | pointer dot star => simp [isReceiver, dot, star]

theorem receiver_form_of_unmarked {type : List Char} (named : type ≠ [])
    (unmarked : type.head? ≠ some '*') : IsReceiverForm type := by
  obtain ⟨first, rest, rfl⟩ := List.exists_cons_of_ne_nil named
  exact .type (by simpa using unmarked)

theorem no_parenthesis_iff {text : List Char} :
    hasParenthesis text = false ↔ ∀ c ∈ text, c ≠ '(' ∧ c ≠ ')' := by
  simp [hasParenthesis]

theorem is_name_iff_plain {name : List Char} :
    isName name = true ↔ name ≠ [] ∧ ∀ c ∈ name, c ≠ '.' ∧ c ≠ '(' ∧ c ≠ ')' := by
  rw [is_name_iff, no_parenthesis_iff]
  constructor
  · intro isName
    refine ⟨isName.1, ?_⟩
    intro c member
    refine ⟨?_, isName.2.2 c member⟩
    rintro rfl
    exact isName.2.1 member
  · intro isName
    exact ⟨isName.1, fun member => (isName.2 '.' member).1 rfl,
      fun c member => (isName.2 c member).2⟩

theorem has_form_iff {source : List Char} {parts : PatternParts} :
    HasForm source parts ↔ parts.text = source ∧ parts.Fits := by
  constructor
  · intro form
    cases form with
    | receiver isType named plain =>
        exact ⟨rfl, is_receiver_iff_form.mpr isType, is_name_iff_plain.mpr ⟨named, plain⟩⟩
    | pair qualified named dotless bare =>
        have both := no_parenthesis_iff.mpr bare
        rw [has_parenthesis_append, Bool.or_eq_false_iff] at both
        exact ⟨rfl, qualified, both.1, is_name_iff.mpr ⟨named, dotless, both.2⟩⟩
    | single named plain => exact ⟨rfl, is_name_iff_plain.mpr ⟨named, plain⟩⟩
  · intro printed
    rcases printed with ⟨rfl, fits⟩
    cases parts with
    | receiver type method =>
        obtain ⟨named, plain⟩ := is_name_iff_plain.mp fits.2
        exact .receiver (is_receiver_iff_form.mp fits.1) named plain
    | pair left right =>
        obtain ⟨qualified, bareLeft, isRight⟩ := fits
        obtain ⟨named, dotless, bareRight⟩ := is_name_iff.mp isRight
        refine .pair qualified named dotless (no_parenthesis_iff.mp ?_)
        rw [has_parenthesis_append, bareLeft, bareRight]
        rfl
    | single name =>
        obtain ⟨named, plain⟩ := is_name_iff_plain.mp fits
        exact .single named plain

end LiteralFlow.PatternParts

namespace LiteralFlow.CallPattern

open PatternParts

theorem parts_eq_some_iff {source : String} {parts : PatternParts} :
    (parse source).parts? = some parts ↔ HasForm source.toList parts :=
  read_eq_some_iff.trans has_form_iff.symm

/-- A text is a valid pattern exactly when it has one of the three forms. It has one
form with one division only, which gives the parts, and the parts give the text back.
The number of parts and the form of a package function's name are read off the form. -/
theorem parse_exact (source : String) :
    ((parse source).isValid = true ↔ ∃ parts, HasForm source.toList parts) ∧
    (∀ parts, (parse source).parts? = some parts ↔ HasForm source.toList parts) ∧
    (∀ parts parts', HasForm source.toList parts → HasForm source.toList parts' →
      parts = parts') ∧
    (∀ parts, HasForm source.toList parts → parts.text = source.toList) ∧
    ((parse source).partCount = 2 ↔
      (∃ type method, HasForm source.toList (.receiver type method)) ∨
        ∃ left right, HasForm source.toList (.pair left right)) ∧
    ((parse source).partCount = 1 ↔ ∃ name, HasForm source.toList (.single name)) ∧
    ((parse source).partCount = 0 ↔ ¬ ∃ parts, HasForm source.toList parts) ∧
    ((parse source).isFunctionShaped = true ↔
      ∃ left right, HasForm source.toList (.pair left right)) := by
  have unique : ∀ parts parts', HasForm source.toList parts → HasForm source.toList parts' →
      parts = parts' := by
    intro parts parts' form form'
    rw [← parts_eq_some_iff] at form form'
    exact Option.some.inj (form.symm.trans form')
  refine ⟨?_, fun _ => parts_eq_some_iff, unique, fun _ form => (has_form_iff.mp form).1, ?_⟩
  · simp only [← parts_eq_some_iff]
    exact Option.isSome_iff_exists
  · simp only [← parts_eq_some_iff, partCount, isFunctionShaped]
    cases (parse source).parts? with
    | none => simp
    | some parts => cases parts <;> simp [count]

/-- A pointer mark before a type that holds a closing parenthesis and a dot, and a
pointer mark before a dot. -/
theorem nested_receiver_parsed :
    HasForm "(*a).b).M".toList (.receiver "*a).b".toList ['M']) ∧
    (parse "(*a).b).M").parts? = some (.receiver "*a).b".toList ['M']) ∧
    (receiver "*a).b".toList ['M']).text = "(*a).b).M".toList ∧
    (∀ parts, HasForm "(*a).b).M".toList parts → parts = .receiver "*a).b".toList ['M']) ∧
    (parse "(*.T).M").partCount = 0 := by
  have isType : IsReceiverForm "*a).b".toList :=
    @IsReceiverForm.pointer 'a' [')', '.', 'b'] (by decide) (by decide)
  have form : HasForm "(*a).b).M".toList (.receiver "*a).b".toList ['M']) :=
    @HasForm.receiver _ ['M'] isType (by decide) (by simp)
  obtain ⟨-, parts, unique, printed, -⟩ := parse_exact "(*a).b).M"
  refine ⟨form, (parts _).mpr form, printed _ form, fun _ other => unique _ _ other form, ?_⟩
  obtain ⟨-, -, -, -, -, -, none, -⟩ := parse_exact "(*.T).M"
  rw [none]
  rintro ⟨parts, form⟩
  rw [← parts_eq_some_iff] at form
  cases form

end LiteralFlow.CallPattern
