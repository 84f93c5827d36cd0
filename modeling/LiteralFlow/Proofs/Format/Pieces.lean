import LiteralFlow.Proofs.Format.Division

/-!
Formats put together from texts without percent signs, escapes and verbs that have a
placeholder. Such a format is emulated by showing the placeholders unless it is
crowded: two verbs stand side by side, or two escapes before what begins like a
directive once the placeholders are shown. A crowded format has no result.
-/

namespace LiteralFlow.Format

inductive Piece where
  | text (chars : List Char) (nonempty : chars ≠ []) (plain : '%' ∉ chars)
  | escape
  | verb (verb : Verb)

def Piece.tokens : Piece → List Token
  | text chars _ _ => chars.map .char
  | escape => [.char '%', .char '%']
  | verb found => [.verb found]

def tokensOf (pieces : List Piece) : List Token := pieces.flatMap Piece.tokens

/-- Two verbs are neighbours, or two escapes stand before what begins like a directive
once the placeholders are shown. -/
def Crowded (pieces : List Piece) : Prop :=
  (∃ before left right after, pieces = before ++ .verb left :: .verb right :: after) ∨
    ∃ before after, pieces = before ++ .escape :: .escape :: after ∧ Opens (shown (tokensOf after))

variable {piece : Piece} {pieces : List Piece} {front back rest : List Char} {c : Char} {run : Nat}

theorem tokens_of_cons (piece : Piece) (pieces : List Piece) :
    tokensOf (piece :: pieces) = piece.tokens ++ tokensOf pieces :=
  List.flatMap_cons

theorem tokens_of_append (before after : List Piece) :
    tokensOf (before ++ after) = tokensOf before ++ tokensOf after :=
  List.flatMap_append

theorem source_cons (piece : Piece) (pieces : List Piece) :
    source (tokensOf (piece :: pieces)) = source piece.tokens ++ source (tokensOf pieces) := by
  rw [tokens_of_cons, source_append]

theorem shown_cons (piece : Piece) (pieces : List Piece) :
    shown (tokensOf (piece :: pieces)) = shown piece.tokens ++ shown (tokensOf pieces) := by
  rw [tokens_of_cons, shown_append]

theorem source_verb_piece (verb : Verb) :
    source (Piece.verb verb).tokens = '%' :: (verb.flags ++ [verb.letter]) :=
  List.append_nil _

theorem shown_verb_piece (verb : Verb) :
    shown (Piece.verb verb).tokens = verb.placeholder.toList :=
  List.append_nil _

/-- Of the two percent signs of an escape only the second can begin a directive. -/
theorem escape_before_percent (opens : Opens back)
    (joined : '%' :: '%' :: rest = front ++ '%' :: back) :
    (front = ['%'] ∧ rest = back) ∨
      ∃ between, front = ['%', '%'] ++ between ∧ rest = between ++ '%' :: back := by
  rcases front with _ | ⟨first, _ | ⟨second, between⟩⟩
  · rw [List.nil_append, List.cons.injEq] at joined
    rw [← joined.2] at opens
    exact absurd rfl opens.not_percent
  · rw [List.singleton_append, List.cons.injEq, List.cons.injEq] at joined
    exact .inl ⟨by rw [← joined.1], joined.2.2⟩
  · rw [List.cons_append, List.cons_append, List.cons.injEq, List.cons.injEq] at joined
    exact .inr ⟨between, by rw [← joined.1, ← joined.2.1]; rfl, joined.2.2⟩

/-! ### The division that a result shows -/

/-- Where a place can be in a format that begins with a piece. -/
theorem place_in_piece (opens : Opens back)
    (joined : source piece.tokens ++ rest = front ++ '%' :: back) :
    (∃ verb, piece = .verb verb ∧ front = []) ∨ (piece = .escape ∧ front = ['%']) ∨
      ∃ between, front = source piece.tokens ++ between ∧ rest = between ++ '%' :: back := by
  cases piece with
  | text chars nonempty plain =>
      rw [Piece.tokens, source_chars] at joined ⊢
      exact .inr (.inr (plain_before_percent plain joined))
  | escape =>
      rcases escape_before_percent opens joined with ⟨here, -⟩ | later
      · exact .inr (.inl ⟨rfl, here⟩)
      · exact .inr (.inr later)
  | verb verb =>
      cases front with
      | nil => exact .inl ⟨verb, rfl, rfl⟩
      | cons first front =>
          rw [source_verb_piece] at joined ⊢
          rw [List.cons_append, List.cons_append, List.cons.injEq] at joined
          obtain ⟨between, rfl, later⟩ := plain_before_percent verb.percent_not_mem joined.2
          exact .inr (.inr ⟨between, by rw [joined.1]; rfl, later⟩)

theorem even_run_of_piece (even : Even run) (piece : Piece) :
    Even (percentRun run (source piece.tokens)) := by
  cases piece with
  | text chars nonempty plain =>
      rw [Piece.tokens, source_chars, percent_run_plain run nonempty plain]
      exact Even.zero
  | escape => exact even.add ⟨1, rfl⟩
  | verb verb =>
      have zero : percentRun run ('%' :: (verb.flags ++ [verb.letter])) = 0 := verb.run_source run
      rw [source_verb_piece, zero]
      exact Even.zero

theorem verb_at_pieces_iff (even : Even run)
    (place : IsPlace (source (tokensOf pieces)) front back) :
    VerbAt (tokensOf pieces) front ↔ Even (percentRun run front) := by
  induction pieces generalizing run front with
  | nil => exact absurd place.1 (by simp [tokensOf, source])
  | cons piece pieces induction =>
      obtain ⟨joined, opens⟩ := place
      rw [source_cons] at joined
      rcases place_in_piece opens joined with ⟨verb, rfl, rfl⟩ | ⟨rfl, rfl⟩ | ⟨between, rfl, later⟩
      · exact iff_of_true (verb_at_nil_iff.mpr ⟨verb, _, rfl⟩) even
      · refine iff_of_false ?_ ?_
        · intro place
          obtain ⟨verb, after, same⟩ := verb_at_nil_iff.mp
            ((verb_at_append_iff [.char '%'] (.char '%' :: tokensOf pieces) []).mp place)
          cases same
        · exact Nat.not_even_iff_odd.mpr even.add_one
      · rw [tokens_of_cons, verb_at_append_iff, percent_run_append]
        exact induction (even_run_of_piece even piece) ⟨later, opens⟩

theorem settled_pieces (pieces : List Piece) : Settled (tokensOf pieces) :=
  fun _ _ place => verb_at_pieces_iff Even.zero place

/-- A result can only be the pieces with their placeholders, and has no two verbs side
by side. -/
theorem shown_of_emulate {result : String}
    (resolved : emulate? (String.ofList (source (tokensOf pieces))) = some result) :
    result.toList = shown (tokensOf pieces) ∧ Spaced (tokensOf pieces) := by
  obtain ⟨tokens, divided, shows, spaced, settled⟩ := division_of_emulate resolved
  rw [String.toList_ofList] at divided
  have same := settled.unique (settled_pieces pieces) divided
  rw [← same]
  exact ⟨shows.symm, spaced⟩

theorem emulate_of_crowded (crowded : Crowded pieces) :
    emulate? (String.ofList (source (tokensOf pieces))) = none := by
  rw [Option.eq_none_iff_forall_ne_some]
  intro result resolved
  obtain ⟨shows, spaced⟩ := shown_of_emulate resolved
  rcases crowded with ⟨before, left, right, after, rfl⟩ | ⟨before, after, rfl, opens⟩
  · rw [tokens_of_append] at spaced
    have neighbours := (List.isChain_append.mp spaced).2.1
    exact (List.isChain_cons_cons.mp neighbours).1 ⟨trivial, trivial⟩
  · -- Behind the first three of the four percent signs a match is left.
    have unmatched := (emulate_eq_some_iff.mp resolved).1
    rw [shows, tokens_of_append, shown_append] at unmatched
    have place : IsPlace (shown (tokensOf before) ++ shown (tokensOf (.escape :: .escape :: after)))
        (shown (tokensOf before) ++ ['%'] ++ ['%'] ++ ['%']) (shown (tokensOf after)) :=
      ⟨by simp [tokens_of_cons, Piece.tokens, shown_char], opens⟩
    have found := has_match_iff.mpr ⟨_, _, place, by simp only [percent_run_percent]; omega⟩
    rw [unmatched] at found
    cases found

/-! ### Formats that are not crowded -/

theorem percent_in_shown_piece (opens : Opens back)
    (joined : shown piece.tokens ++ rest = front ++ '%' :: back) :
    (piece = .escape ∧ front = ['%'] ∧ rest = back) ∨
      ∃ between, front = shown piece.tokens ++ between ∧ rest = between ++ '%' :: back := by
  cases piece with
  | text chars nonempty plain =>
      rw [Piece.tokens, shown_chars] at joined ⊢
      exact .inr (plain_before_percent plain joined)
  | escape =>
      rcases escape_before_percent opens joined with ⟨here, behind⟩ | later
      · exact .inl ⟨rfl, here, behind⟩
      · exact .inr later
  | verb verb =>
      rw [shown_verb_piece] at joined ⊢
      exact .inr (plain_before_percent (placeholder_shape verb.known).2.2.1 joined)

/-- In what is shown only the second percent sign of an escape can begin a directive. -/
theorem escape_of_shown_place (place : IsPlace (shown (tokensOf pieces)) front back) :
    ∃ before after, pieces = before ++ .escape :: after ∧
      front = shown (tokensOf before) ++ ['%'] ∧ back = shown (tokensOf after) := by
  induction pieces generalizing front with
  | nil => exact absurd place.1 (by simp [tokensOf, shown])
  | cons piece pieces induction =>
      obtain ⟨joined, opens⟩ := place
      rw [shown_cons] at joined
      rcases percent_in_shown_piece opens joined with ⟨rfl, rfl, rfl⟩ | ⟨between, rfl, later⟩
      · exact ⟨[], pieces, rfl, rfl, rfl⟩
      · obtain ⟨before, after, rfl, rfl, rfl⟩ := induction ⟨later, opens⟩
        exact ⟨piece :: before, after, rfl, by rw [shown_cons, List.append_assoc], rfl⟩

theorem escape_of_shown_run (several : percentRun 0 (shown (tokensOf pieces)) ≠ 0) :
    ∃ before, pieces = before ++ [.escape] := by
  rcases List.eq_nil_or_concat' pieces with rfl | ⟨before, last, rfl⟩
  · exact absurd rfl several
  · have single : tokensOf [last] = last.tokens := List.append_nil _
    rw [tokens_of_append, shown_append, percent_run_append, single] at several
    cases last with
    | text chars nonempty plain =>
        rw [Piece.tokens, shown_chars] at several
        exact absurd (percent_run_plain _ nonempty plain) several
    | escape => exact ⟨before, rfl⟩
    | verb verb =>
        rw [shown_verb_piece] at several
        exact absurd (verb.run_shown _) several

theorem unmatched_of_not_crowded (free : ¬ Crowded pieces) :
    hasMatch true (shown (tokensOf pieces)) = false := by
  rw [← Bool.not_eq_true, has_match_iff]
  intro found
  obtain ⟨front, back, place, several⟩ := found
  obtain ⟨before, after, rfl, rfl, rfl⟩ := escape_of_shown_place place
  rw [percent_run_percent] at several
  have run : percentRun 0 (shown (tokensOf before)) ≠ 0 := by omega
  obtain ⟨before, rfl⟩ := escape_of_shown_run run
  exact free (.inr ⟨before, after, by simp, place.2⟩)

theorem Crowded.cons (piece : Piece) (crowded : Crowded pieces) : Crowded (piece :: pieces) := by
  rcases crowded with ⟨before, left, right, after, rfl⟩ | ⟨before, after, rfl, opens⟩
  · exact .inl ⟨piece :: before, left, right, after, rfl⟩
  · exact .inr ⟨piece :: before, after, rfl, opens⟩

/-! ### Substitution in pieces -/

theorem substitute_found {atStart : Bool} {text : List Char} {found : Match}
    (matched : matchAt? atStart text = some found) :
    substitute atStart text =
      found.lead ++ (found.directive.replacement ++ substitute false found.directive.rest) := by
  rw [substitute]
  split
  · rename_i other same
    rw [matched] at same
    cases same
    rfl
  · rename_i none
    rw [matched] at none
    cases none

theorem substitute_skip {atStart : Bool} (unmatched : matchAt? atStart (c :: rest) = none) :
    substitute atStart (c :: rest) = c :: substitute false rest := by
  rw [substitute]
  split
  · rename_i found same
    rw [unmatched] at same
    cases same
  · rfl

theorem substitute_start {text : List Char} (closed : Directive.ofPercent? text = none) :
    substitute true text = substitute false text := by
  have same : matchAt? true text = matchAt? false text := by
    simp [matchAt?, closed]
  cases matched : matchAt? false text with
  | some found => rw [substitute_found matched, substitute_found (same.trans matched)]
  | none =>
      cases text with
      | nil => exact (substitute_of_unmatched rfl).trans (substitute_of_unmatched rfl).symm
      | cons c rest => rw [substitute_skip matched, substitute_skip (same.trans matched)]

theorem of_percent_other (other : c ≠ '%') : Directive.ofPercent? (c :: rest) = none := by
  unfold Directive.ofPercent?
  split
  · rename_i same
    exact absurd (List.cons.inj same).1 other
  · rfl

theorem read_eq_none (closed : ¬ Opens rest) : Directive.read? rest = none := by
  rwa [← Option.not_isSome_iff_eq_none, read_is_some_iff]

theorem of_percent_escape : Directive.ofPercent? ('%' :: '%' :: rest) = none := by
  have closed : ¬ Opens ('%' :: rest) := fun opens => opens.not_percent rfl
  exact read_eq_none closed

/-- A character other than the percent sign leads to what follows as the start does. -/
theorem substitute_char (other : c ≠ '%') :
    substitute true (c :: rest) = c :: substitute true rest := by
  have inside : matchAt? false (c :: rest) = (Directive.ofPercent? rest).map (⟨[c], ·⟩) :=
    inside_char other rest
  rw [substitute_start (of_percent_other other)]
  cases read : Directive.ofPercent? rest with
  | some directive =>
      have start : matchAt? true rest = some ⟨[], directive⟩ := by
        simp [matchAt?, read]
      rw [read] at inside
      rw [substitute_found inside, substitute_found start]
      rfl
  | none =>
      rw [read] at inside
      rw [substitute_skip inside, substitute_start read]

theorem substitute_plain {chars : List Char} (plain : '%' ∉ chars) :
    substitute true (chars ++ rest) = chars ++ substitute true rest := by
  induction chars with
  | nil => rfl
  | cons c chars induction =>
      rw [List.mem_cons, not_or] at plain
      rw [List.cons_append, substitute_char (Ne.symm plain.1), induction plain.2, List.cons_append]

theorem Verb.read_source (verb : Verb) (rest : List Char) :
    Directive.read? (verb.flags ++ [verb.letter] ++ rest) =
      some ⟨verb.flags, verb.letter, rest⟩ := by
  obtain ⟨word, letter, -⟩ := placeholder_shape verb.known
  rw [List.append_assoc]
  exact read_of_letter verb.isFlags word letter

theorem Verb.replacement (verb : Verb) (rest : List Char) :
    (⟨verb.flags, verb.letter, rest⟩ : Directive).replacement = verb.placeholder.toList := by
  rw [Directive.replacement, verb.known]

theorem substitute_verb (verb : Verb) :
    substitute true ('%' :: (verb.flags ++ [verb.letter]) ++ rest) =
      verb.placeholder.toList ++ substitute false rest := by
  have matched : matchAt? true ('%' :: (verb.flags ++ [verb.letter]) ++ rest) =
      some ⟨[], ⟨verb.flags, verb.letter, rest⟩⟩ := by
    rw [matchAt?, if_pos rfl, List.cons_append, Directive.ofPercent?, verb.read_source]
    rfl
  rw [substitute_found matched, verb.replacement]
  rfl

theorem substitute_escaped_verb (verb : Verb) (rest : List Char) :
    substitute true ('%' :: '%' :: ('%' :: (verb.flags ++ [verb.letter]) ++ rest)) =
      '%' :: '%' :: (verb.placeholder.toList ++ substitute false rest) := by
  have read := verb.read_source rest
  have single : (verb.flags ++ [verb.letter] ++ rest).head? ≠ some '%' :=
    Opens.not_percent (read_is_some_iff.mp (Option.isSome_of_eq_some read))
  have matched : matchAt? false ('%' :: '%' :: ('%' :: (verb.flags ++ [verb.letter]) ++ rest)) =
      some ⟨['%', '%'], ⟨verb.flags, verb.letter, rest⟩⟩ := by
    rw [matchAt?, if_neg Bool.false_ne_true, List.cons_append, inside_escape single, read]
    rfl
  rw [substitute_start of_percent_escape, substitute_found matched, verb.replacement]
  rfl

theorem substitute_escape (first : matchAt? false ('%' :: '%' :: rest) = none)
    (second : matchAt? false ('%' :: rest) = none) (closed : Directive.ofPercent? rest = none) :
    substitute true ('%' :: '%' :: rest) = '%' :: '%' :: substitute true rest := by
  rw [substitute_start of_percent_escape, substitute_skip first, substitute_skip second,
    substitute_start closed]

theorem drop_escapes_other (other : c ≠ '%') : dropEscapes (c :: rest) = c :: rest := by
  rw [dropEscapes]
  intro _ same
  exact other (List.cons.inj same).1

theorem text_head {chars : List Char} (nonempty : chars ≠ []) (plain : '%' ∉ chars)
    (rest : List Char) : ∃ c others, c ≠ '%' ∧ chars ++ rest = c :: others := by
  obtain ⟨c, others, rfl⟩ := List.exists_cons_of_ne_nil nonempty
  rw [List.mem_cons, not_or] at plain
  exact ⟨c, others ++ rest, Ne.symm plain.1, rfl⟩

/-- Behind two escapes of a format that is not crowded no directive is found, be the
run of percent signs even or odd. -/
theorem closed_behind_escapes (free : ¬ Crowded (.escape :: .escape :: pieces)) :
    Directive.ofPercent? (dropEscapes (source (tokensOf pieces))) = none ∧
      Directive.ofPercent? (dropEscapes ('%' :: source (tokensOf pieces))) = none := by
  induction pieces with
  | nil => exact ⟨rfl, rfl⟩
  | cons piece pieces induction =>
      have closed : ¬ Opens (shown (tokensOf (piece :: pieces))) :=
        fun opens => free (.inr ⟨[], _, rfl, opens⟩)
      cases piece with
      | text chars nonempty plain =>
          have shut := read_eq_none fun opens => closed (opens_shown opens)
          rw [source_cons, Piece.tokens, source_chars] at shut ⊢
          obtain ⟨c, others, other, spelled⟩ := text_head nonempty plain (source (tokensOf pieces))
          rw [spelled] at shut ⊢
          rw [drop_escapes_other other, of_percent_other other,
            drop_escapes_single (by simpa using other)]
          exact ⟨rfl, shut⟩
      | escape => exact induction fun crowded => free (crowded.cons .escape)
      | verb verb =>
          rw [shown_cons, shown_verb_piece] at closed
          exact absurd (verb.opens_placeholder _) closed

theorem of_percent_pieces (start : ∀ verb after, pieces ≠ .verb verb :: after) :
    Directive.ofPercent? (source (tokensOf pieces)) = none := by
  cases pieces with
  | nil => rfl
  | cons piece pieces =>
      cases piece with
      | text chars nonempty plain =>
          obtain ⟨c, others, other, spelled⟩ := text_head nonempty plain (source (tokensOf pieces))
          rw [source_cons, Piece.tokens, source_chars, spelled, of_percent_other other]
      | escape => exact of_percent_escape
      | verb verb => exact absurd rfl (start verb pieces)

theorem unmatched_escapes (closed : Directive.ofPercent? (dropEscapes rest) = none) :
    matchAt? false ('%' :: '%' :: rest) = none := by
  rw [matchAt?, if_neg Bool.false_ne_true, inside?, closed]
  rfl

theorem unmatched_single (other : c ≠ '%') : matchAt? false ('%' :: c :: rest) = none := by
  rw [matchAt?, if_neg Bool.false_ne_true, inside?]
  · exact if_pos rfl
  · intro _ _ same
    exact other (List.cons.inj same).1

/-- An escape that no verb follows is passed over. -/
theorem unmatched_escape (free : ¬ Crowded (.escape :: pieces))
    (start : ∀ verb after, pieces ≠ .verb verb :: after) :
    matchAt? false ('%' :: '%' :: source (tokensOf pieces)) = none ∧
      matchAt? false ('%' :: source (tokensOf pieces)) = none := by
  cases pieces with
  | nil => exact ⟨rfl, rfl⟩
  | cons piece pieces =>
      cases piece with
      | text chars nonempty plain =>
          obtain ⟨c, others, other, spelled⟩ := text_head nonempty plain (source (tokensOf pieces))
          rw [source_cons, Piece.tokens, source_chars, spelled]
          have closed : Directive.ofPercent? (dropEscapes (c :: others)) = none := by
            rw [drop_escapes_other other, of_percent_other other]
          exact ⟨unmatched_escapes closed, unmatched_single other⟩
      | escape =>
          obtain ⟨even, odd⟩ := closed_behind_escapes free
          exact ⟨unmatched_escapes even, unmatched_escapes odd⟩
      | verb verb => exact absurd rfl (start verb pieces)

theorem substitute_pieces (free : ¬ Crowded pieces) :
    substitute true (source (tokensOf pieces)) = shown (tokensOf pieces) := by
  induction pieces with
  | nil => exact substitute_of_unmatched rfl
  | cons piece pieces induction =>
      have later := induction fun crowded => free (crowded.cons piece)
      cases piece with
      | text chars nonempty plain =>
          rw [source_cons, shown_cons, Piece.tokens, source_chars, shown_chars,
            substitute_plain plain, later]
      | verb verb =>
          have start : ∀ next after, pieces ≠ .verb next :: after := by
            rintro next after rfl
            exact free (.inl ⟨[], verb, next, after, rfl⟩)
          rw [source_cons, shown_cons, source_verb_piece, shown_verb_piece, substitute_verb,
            ← later, substitute_start (of_percent_pieces start)]
      | escape =>
          by_cases start : ∀ verb after, pieces ≠ .verb verb :: after
          · obtain ⟨first, second⟩ := unmatched_escape free start
            have passed := substitute_escape first second (of_percent_pieces start)
            rw [later] at passed
            exact passed
          · -- The escape leads to the verb behind it, and both are matched at once.
            simp only [not_forall, not_not] at start
            obtain ⟨verb, after, rfl⟩ := start
            rw [source_cons, source_verb_piece, substitute_verb] at later
            have escaped := substitute_escaped_verb verb (source (tokensOf after))
            rw [later] at escaped
            rw [source_cons, source_cons, source_verb_piece]
            exact escaped

/-- Pieces are emulated by showing their placeholders exactly when they are not
crowded, and crowded pieces have no result. -/
theorem emulate_pieces_iff (pieces : List Piece) :
    (emulate? (String.ofList (source (tokensOf pieces))) =
        some (String.ofList (shown (tokensOf pieces))) ↔ ¬ Crowded pieces) ∧
      (emulate? (String.ofList (source (tokensOf pieces))) = none ↔ Crowded pieces) := by
  have resolved : ¬ Crowded pieces → emulate? (String.ofList (source (tokensOf pieces))) =
      some (String.ofList (shown (tokensOf pieces))) := by
    intro free
    rw [emulate_eq_some_iff, String.toList_ofList, String.toList_ofList]
    exact ⟨unmatched_of_not_crowded free, substitute_pieces free⟩
  constructor
  · refine ⟨?_, resolved⟩
    intro found crowded
    rw [emulate_of_crowded crowded] at found
    cases found
  · refine ⟨?_, emulate_of_crowded⟩
    intro unresolved
    by_contra free
    rw [resolved free] at unresolved
    cases unresolved

/-- Two verbs side by side, and two escapes before a letter. -/
example : emulate? "%d%d" = none ∧ emulate? "%%%%d" = none := by
  decide +kernel

end LiteralFlow.Format
