import LiteralFlow.Proofs.Format.Directive
import Mathlib.Algebra.Ring.Parity
import Mathlib.Data.List.Chain

/-!
Formats divided into characters and verbs. Substitution shows a placeholder for each
verb of one division of the format. When no match is left in what it shows, the
division has a verb behind every odd run of percent signs that can begin a directive.
-/

namespace LiteralFlow.Format

structure Verb where
  flags : List Char
  letter : Char
  placeholder : String
  isFlags : IsFlags flags
  known : placeholder? letter = some placeholder

inductive Token where
  | char (c : Char)
  | verb (verb : Verb)

namespace Token

def source : Token → List Char
  | char c => [c]
  | verb found => '%' :: (found.flags ++ [found.letter])

def shown : Token → List Char
  | char c => [c]
  | verb found => found.placeholder.toList

def IsVerb : Token → Prop
  | char _ => False
  | verb _ => True

end Token

def source (tokens : List Token) : List Char := tokens.flatMap Token.source

def shown (tokens : List Token) : List Char := tokens.flatMap Token.shown

/-- The percent sign behind `front` belongs to a verb. -/
def VerbAt (tokens : List Token) (front : List Char) : Prop :=
  ∃ before verb after, tokens = before ++ .verb verb :: after ∧ source before = front

variable {tokens before after : List Token} {text front back : List Char} {run : Nat}

theorem source_append (before after : List Token) :
    source (before ++ after) = source before ++ source after :=
  List.flatMap_append

theorem shown_append (before after : List Token) :
    shown (before ++ after) = shown before ++ shown after :=
  List.flatMap_append

theorem source_char (c : Char) (tokens : List Token) :
    source (.char c :: tokens) = c :: source tokens :=
  rfl

theorem shown_char (c : Char) (tokens : List Token) :
    shown (.char c :: tokens) = c :: shown tokens :=
  rfl

theorem source_verb (verb : Verb) (tokens : List Token) :
    source (.verb verb :: tokens) = '%' :: (verb.flags ++ [verb.letter]) ++ source tokens :=
  List.flatMap_cons

theorem shown_verb (verb : Verb) (tokens : List Token) :
    shown (.verb verb :: tokens) = verb.placeholder.toList ++ shown tokens :=
  List.flatMap_cons

theorem source_chars (text : List Char) : source (text.map .char) = text := by
  rw [source, List.flatMap_map]
  exact List.flatMap_singleton' text

theorem shown_chars (text : List Char) : shown (text.map .char) = text := by
  rw [shown, List.flatMap_map]
  exact List.flatMap_singleton' text

theorem source_eq_nil_iff : source tokens = [] ↔ tokens = [] := by
  cases tokens with
  | nil => simp [source]
  | cons token tokens => cases token <;> simp [source, Token.source]

theorem placeholder_shape {letter : Char} {placeholder : String}
    (known : placeholder? letter = some placeholder) :
    isVerb letter = true ∧ letter.isDigit = false ∧ '%' ∉ placeholder.toList ∧
      ∃ first rest, isVerb first = true ∧ placeholder.toList = first :: rest := by
  unfold placeholder? at known
  split at known
  all_goals
    cases known
  all_goals
    exact ⟨by decide, by decide, by decide, _, _, by decide, rfl⟩

namespace Verb

theorem percent_not_mem (verb : Verb) : '%' ∉ verb.flags ++ [verb.letter] :=
  verb.isFlags.percent_not_mem_verb (placeholder_shape verb.known).1

/-- A placeholder begins with a character that can be a verb. -/
theorem opens_placeholder (verb : Verb) (rest : List Char) :
    Opens (verb.placeholder.toList ++ rest) := by
  obtain ⟨-, -, -, first, others, word, spelled⟩ := placeholder_shape verb.known
  exact ⟨[], first, others ++ rest, .absent, word, by rw [spelled]; rfl⟩

theorem run_source (verb : Verb) (run : Nat) :
    percentRun run (Token.verb verb).source = 0 := by
  have other := (ne_of_verb (placeholder_shape verb.known).1).1
  exact percent_run_other run ('%' :: verb.flags) other

theorem run_shown (verb : Verb) (run : Nat) :
    percentRun run (Token.verb verb).shown = 0 := by
  obtain ⟨-, -, plain, first, rest, -, spelled⟩ := placeholder_shape verb.known
  exact percent_run_plain run (by simp [Token.shown, spelled]) plain

/-- A verb is read off its source in one way only. -/
theorem unique {verb verb' : Verb} {rest rest' : List Char}
    (same : verb.flags ++ verb.letter :: rest = verb'.flags ++ verb'.letter :: rest') :
    verb = verb' ∧ rest = rest' := by
  obtain ⟨word, letter, -⟩ := placeholder_shape verb.known
  obtain ⟨word', letter', -⟩ := placeholder_shape verb'.known
  obtain ⟨sameFlags, sameLetter, sameRest⟩ :=
    letter_unique verb.isFlags verb'.isFlags word word' letter letter' same
  have known := verb.known
  rw [sameLetter, verb'.known] at known
  refine ⟨?_, sameRest⟩
  cases verb
  cases verb'
  cases sameFlags
  cases sameLetter
  cases known
  rfl

end Verb

/-- Showing placeholders leaves the runs of percent signs as they are. -/
theorem percent_run_shown (run : Nat) (tokens : List Token) :
    percentRun run (shown tokens) = percentRun run (source tokens) := by
  induction tokens generalizing run with
  | nil => rfl
  | cons token tokens induction =>
      rw [shown, source, List.flatMap_cons, List.flatMap_cons, percent_run_append,
        percent_run_append, ← shown, ← source, induction]
      cases token with
      | char c => rfl
      | verb verb => rw [verb.run_source, verb.run_shown]

theorem plain_start_shown {plain rest : List Char} (absent : '%' ∉ plain)
    (joined : source tokens = plain ++ rest) : ∃ rest, shown tokens = plain ++ rest := by
  induction tokens generalizing plain with
  | nil =>
      have empty := List.append_eq_nil_iff.mp joined.symm
      exact ⟨[], by rw [empty.1]; rfl⟩
  | cons token tokens induction =>
      cases plain with
      | nil => exact ⟨_, rfl⟩
      | cons first plain =>
          rw [List.mem_cons, not_or] at absent
          cases token with
          | char c =>
              rw [source_char, List.cons_append, List.cons.injEq] at joined
              obtain ⟨rest, shows⟩ := induction absent.2 joined.2
              exact ⟨rest, by rw [shown_char, shows, joined.1]; rfl⟩
          | verb verb =>
              rw [source_verb, List.cons_append, List.cons_append, List.cons.injEq] at joined
              exact absurd joined.1 absent.1

/-- What begins like a directive before placeholders are shown does so afterwards. -/
theorem opens_shown (opens : Opens (source tokens)) : Opens (shown tokens) := by
  obtain ⟨flags, verb, rest, isFlags, word, joined⟩ := opens
  have start : source tokens = (flags ++ [verb]) ++ rest := by simpa using joined
  obtain ⟨rest, shows⟩ := plain_start_shown (isFlags.percent_not_mem_verb word) start
  exact ⟨flags, verb, rest, isFlags, word, by simpa using shows⟩

theorem plain_before_percent {plain rest : List Char} (absent : '%' ∉ plain)
    (joined : plain ++ rest = front ++ '%' :: back) :
    ∃ between, front = plain ++ between ∧ rest = between ++ '%' :: back := by
  rcases List.append_eq_append_iff.mp joined with
    ⟨between, first, second⟩ | ⟨between, first, second⟩
  · exact ⟨between, first, second⟩
  · cases between with
    | nil => exact ⟨[], by simpa using first.symm, second.symm⟩
    | cons c between =>
        rw [List.cons_append, List.cons.injEq] at second
        rw [first, ← second.1] at absent
        simp at absent

/-- A percent sign belongs to a verb or is a character of the division. -/
theorem percent_token (joined : source tokens = front ++ '%' :: back) :
    VerbAt tokens front ∨
      ∃ before after, tokens = before ++ .char '%' :: after ∧ source before = front ∧
        source after = back := by
  induction tokens generalizing front with
  | nil => simp [source] at joined
  | cons token tokens induction =>
      have later : ∀ between, front = token.source ++ between →
          source tokens = between ++ '%' :: back →
          VerbAt (token :: tokens) front ∨
            ∃ before after, token :: tokens = before ++ .char '%' :: after ∧
              source before = front ∧ source after = back := by
        intro between behind rest
        rcases induction rest with
          ⟨before, verb, after, rfl, place⟩ | ⟨before, after, rfl, place, left⟩
        · exact .inl ⟨token :: before, verb, after, rfl, by rw [behind, ← place]; rfl⟩
        · exact .inr ⟨token :: before, after, rfl, by rw [behind, ← place]; rfl, left⟩
      cases front with
      | nil =>
          cases token with
          | char c =>
              rw [source_char, List.nil_append, List.cons.injEq] at joined
              exact .inr ⟨[], tokens, by rw [joined.1]; rfl, rfl, joined.2⟩
          | verb verb => exact .inl ⟨[], verb, tokens, rfl, rfl⟩
      | cons first front =>
          cases token with
          | char c =>
              rw [source_char, List.cons_append, List.cons.injEq] at joined
              exact later front (by rw [← joined.1]; rfl) joined.2
          | verb verb =>
              rw [source_verb, List.cons_append, List.cons_append, List.cons.injEq] at joined
              obtain ⟨between, rfl, rest⟩ := plain_before_percent verb.percent_not_mem joined.2
              exact later between (by rw [← joined.1]; rfl) rest

/-- A place without a verb is a place of the shown text as well. -/
theorem place_shown (place : IsPlace (source tokens) front back) (skipped : ¬ VerbAt tokens front) :
    ∃ front' back', IsPlace (shown tokens) front' back' ∧
      percentRun 0 front' = percentRun 0 front := by
  rcases percent_token place.1 with verb | ⟨before, after, rfl, rfl, rfl⟩
  · exact absurd verb skipped
  · exact ⟨shown before, shown after, ⟨shown_append _ _, opens_shown place.2⟩,
      percent_run_shown 0 before⟩

/-- A placeholder behind a run of percent signs makes a place of the run's last. -/
theorem place_before_placeholder (replaced : VerbAt tokens front)
    (counted : percentRun 0 front = run + 1) :
    ∃ front' back', IsPlace (shown tokens) front' back' ∧ percentRun 0 front' = run := by
  obtain ⟨before, verb, after, rfl, rfl⟩ := replaced
  obtain ⟨front, ends, counted⟩ := eq_of_percent_run counted
  rcases percent_token ends with ⟨first, other, last, rfl, rfl⟩ | ⟨first, last, rfl, rfl, empty⟩
  · rw [source_append, source_verb] at ends
    simp at ends
  · rw [source_eq_nil_iff.mp empty, List.append_assoc]
    refine ⟨shown first, _, ⟨shown_append _ _, verb.opens_placeholder (shown after)⟩, ?_⟩
    rw [percent_run_shown, counted]

/-- The verbs of a division are the places behind an even run of percent signs. -/
def Settled (tokens : List Token) : Prop :=
  ∀ front back, IsPlace (source tokens) front back →
    (VerbAt tokens front ↔ Even (percentRun 0 front))

/-- When no match is left, the verbs stand behind the even runs of percent signs. -/
theorem settled_of_unmatched (unmatched : hasMatch true (shown tokens) = false) :
    Settled tokens := by
  intro front back place
  have single : ∀ {front back}, IsPlace (shown tokens) front back → percentRun 0 front = 1 := by
    intro front back left
    by_contra several
    exact Bool.false_ne_true (unmatched.symm.trans (has_match_iff.mpr ⟨front, back, left, several⟩))
  constructor
  · intro replaced
    cases counted : percentRun 0 front with
    | zero => exact Even.zero
    | succ run =>
        -- The placeholder leaves a place behind one percent sign less, and that is one.
        obtain ⟨front', back', left, same⟩ := place_before_placeholder replaced counted
        rw [← same, single left]
        exact ⟨1, rfl⟩
  · intro even
    by_contra skipped
    obtain ⟨front', back', left, same⟩ := place_shown place skipped
    rw [← same, single left] at even
    exact Nat.not_even_one even

/-! ### Equal divisions -/

theorem verb_at_nil_iff : VerbAt tokens [] ↔ ∃ verb after, tokens = .verb verb :: after := by
  constructor
  · intro place
    obtain ⟨before, verb, after, rfl, empty⟩ := place
    exact ⟨verb, after, by rw [source_eq_nil_iff.mp empty]; rfl⟩
  · intro starts
    obtain ⟨verb, after, rfl⟩ := starts
    exact ⟨[], verb, after, rfl, rfl⟩

theorem verb_at_append_iff (before after : List Token) (front : List Char) :
    VerbAt (before ++ after) (source before ++ front) ↔ VerbAt after front := by
  constructor
  · intro place
    obtain ⟨first, verb, last, divided, joined⟩ := place
    rcases List.append_eq_append_iff.mp divided with ⟨middle, rfl, rfl⟩ | ⟨middle, rfl, behind⟩
    · rw [source_append, List.append_cancel_left_eq] at joined
      exact ⟨middle, verb, last, rfl, joined⟩
    · -- The verb would stand inside `before`, so nothing of `before` is left behind it.
      rw [source_append, List.append_assoc] at joined
      obtain ⟨empty, rfl⟩ := List.append_eq_nil_iff.mp (List.self_eq_append_right.mp joined)
      rw [source_eq_nil_iff.mp empty, List.nil_append] at behind
      exact verb_at_nil_iff.mpr ⟨verb, last, behind.symm⟩
  · intro place
    obtain ⟨first, verb, last, rfl, rfl⟩ := place
    exact ⟨before ++ first, verb, last, (List.append_assoc _ _ _).symm, source_append _ _⟩

theorem place_of_verb_at (place : VerbAt tokens front) :
    ∃ back, IsPlace (source tokens) front back := by
  obtain ⟨before, verb, after, rfl, rfl⟩ := place
  refine ⟨verb.flags ++ verb.letter :: source after, ?_, verb.flags, verb.letter, source after,
    verb.isFlags, (placeholder_shape verb.known).1, rfl⟩
  rw [source_append, source_verb]
  simp

/-- A division is given by the text and the places of its verbs. -/
theorem division_unique {tokens tokens' : List Token} (same : source tokens = source tokens')
    (places : ∀ front, VerbAt tokens front ↔ VerbAt tokens' front) : tokens = tokens' := by
  induction tokens generalizing tokens' with
  | nil => exact (source_eq_nil_iff.mp same.symm).symm
  | cons token tokens induction =>
      cases tokens' with
      | nil => exact absurd (source_eq_nil_iff.mp same) (List.cons_ne_nil token tokens)
      | cons token' tokens' =>
          -- The first tokens are both verbs or both characters.
          have start := places []
          simp only [verb_at_nil_iff, List.cons.injEq] at start
          obtain ⟨rfl, rest⟩ : token = token' ∧ source tokens = source tokens' := by
            cases token with
            | char c =>
                cases token' with
                | char c' =>
                    rw [source_char, source_char, List.cons.injEq] at same
                    exact ⟨congrArg _ same.1, same.2⟩
                | verb verb' => simp at start
            | verb verb =>
                cases token' with
                | char c' => simp at start
                | verb verb' =>
                    rw [source_verb, source_verb] at same
                    obtain ⟨rfl, rest⟩ := Verb.unique (by simpa using same)
                    exact ⟨rfl, rest⟩
          refine congrArg (token :: ·) (induction rest ?_)
          intro front
          have later : VerbAt ([token] ++ tokens) (source [token] ++ front) ↔
              VerbAt ([token] ++ tokens') (source [token] ++ front) :=
            places (source [token] ++ front)
          rwa [verb_at_append_iff, verb_at_append_iff] at later

theorem Settled.unique {tokens tokens' : List Token} (settled : Settled tokens)
    (settled' : Settled tokens') (same : source tokens = source tokens') : tokens = tokens' := by
  refine division_unique same ?_
  intro front
  constructor
  · intro verb
    obtain ⟨back, place⟩ := place_of_verb_at verb
    exact (settled' front back (same ▸ place)).mpr ((settled front back place).mp verb)
  · intro verb
    obtain ⟨back, place⟩ := place_of_verb_at verb
    exact (settled front back (same ▸ place)).mpr ((settled' front back place).mp verb)

/-! ### The division of a substitution -/

def Spaced (tokens : List Token) : Prop :=
  tokens.IsChain fun left right => ¬ (left.IsVerb ∧ right.IsVerb)

theorem spaced_chars (text : List Char) (spaced : Spaced tokens) :
    Spaced (text.map .char ++ tokens) := by
  induction text with
  | nil => exact spaced
  | cons c text induction =>
      refine List.IsChain.cons induction ?_
      intro next _ both
      exact both.1

theorem head_chars (nonempty : text ≠ []) (tokens : List Token) :
    ∀ token ∈ (text.map Token.char ++ tokens).head?, ¬ token.IsVerb := by
  obtain ⟨c, rest, rfl⟩ := List.exists_cons_of_ne_nil nonempty
  intro token first
  cases first
  exact id

theorem Leads.ne_nil (leads : Leads false front) : front ≠ [] := by
  cases leads with
  | char => simp
  | escape => simp

/-- Substitution shows the placeholders of a division without neighbouring verbs, and
away from the start of the text the division does not begin with a verb. -/
theorem substitute_divides (atStart : Bool) (text : List Char) :
    ∃ tokens, source tokens = text ∧ shown tokens = substitute atStart text ∧ Spaced tokens ∧
      (atStart = false → ∀ token ∈ tokens.head?, ¬ token.IsVerb) := by
  fun_induction substitute atStart text with
  | case1 atStart text found matched induction =>
      obtain ⟨tokens, divided, shows, spaced, inside⟩ := induction
      obtain ⟨isFlags, word, joined, leads⟩ := match_at_sound matched
      cases known : placeholder? found.directive.verb with
      | some placeholder =>
          let verb : Verb :=
            ⟨found.directive.flags, found.directive.verb, placeholder, isFlags, known⟩
          refine ⟨found.lead.map .char ++ .verb verb :: tokens, ?_, ?_, ?_, ?_⟩
          · rw [source_append, source_chars, source_verb, divided, joined]
            simp [verb]
          · rw [shown_append, shown_chars, shown_verb, shows, Directive.replacement, known]
          · refine spaced_chars _ (List.IsChain.cons spaced ?_)
            intro next first both
            exact inside rfl next first both.2
          · rintro rfl
            exact head_chars leads.ne_nil _
      | none =>
          -- A match without placeholder stays as it is, so it counts as characters.
          refine ⟨(found.lead ++ found.directive.source).map .char ++ tokens, ?_, ?_, ?_, ?_⟩
          · rw [source_append, source_chars, divided, joined]
            simp [Directive.source]
          · rw [shown_append, shown_chars, shows, Directive.replacement, known, List.append_assoc]
          · exact spaced_chars _ spaced
          · rintro rfl
            exact head_chars (List.append_ne_nil_of_left_ne_nil leads.ne_nil _) _
  | case2 => exact ⟨[], rfl, rfl, .nil, by simp⟩
  | case3 atStart c rest _ induction =>
      obtain ⟨tokens, divided, shows, spaced, -⟩ := induction
      refine ⟨.char c :: tokens, ?_, ?_, spaced_chars [c] spaced, ?_⟩
      · rw [source_char, divided]
      · rw [shown_char, shows]
      · intro _
        exact head_chars (List.cons_ne_nil c []) tokens

/-! ### Emulation -/

variable {format result : String}

theorem emulate_eq_some_iff :
    emulate? format = some result ↔
      hasMatch true result.toList = false ∧ substitute true format.toList = result.toList := by
  simp only [emulate?, Option.ite_none_left_eq_some, Bool.not_eq_true, Option.some.injEq]
  constructor
  · intro resolved
    rw [← resolved.2, String.toList_ofList]
    exact ⟨resolved.1, rfl⟩
  · intro resolved
    rw [resolved.2, String.ofList_toList]
    exact ⟨resolved.1, rfl⟩

theorem substitute_of_unmatched {atStart : Bool} (unmatched : hasMatch atStart text = false) :
    substitute atStart text = text := by
  fun_induction substitute atStart text with
  | case1 atStart text found matched =>
      cases text with
      | nil => cases atStart <;> cases matched
      | cons c rest =>
          rw [hasMatch, matched] at unmatched
          cases unmatched
  | case2 => rfl
  | case3 atStart c rest _ induction =>
      rw [hasMatch, Bool.or_eq_false_iff] at unmatched
      rw [induction unmatched.2]

theorem division_of_emulate (resolved : emulate? format = some result) :
    ∃ tokens, source tokens = format.toList ∧ shown tokens = result.toList ∧ Spaced tokens ∧
      Settled tokens := by
  obtain ⟨unmatched, substituted⟩ := emulate_eq_some_iff.mp resolved
  obtain ⟨tokens, divided, shows, spaced, -⟩ := substitute_divides true format.toList
  rw [substituted] at shows
  rw [← shows] at unmatched
  exact ⟨tokens, divided, shows, spaced, settled_of_unmatched unmatched⟩

/-- A format that is emulated does not depend on its operands. What is shown is the
format with a placeholder for each verb of a division, every odd run of percent signs
that flags and a verb follow ends in the percent sign of such a verb, and emulating
what is shown changes nothing. So a letter without placeholder behind such a run, be
it `s`, `v` or another, leaves the format without a result. -/
theorem emulated_format_has_no_operands (format : String) :
    (∀ result, emulate? format = some result →
      (∃ tokens, source tokens = format.toList ∧ shown tokens = result.toList ∧
        ∀ front back, format.toList = front ++ '%' :: back →
          Odd (percentRun 0 (front ++ ['%'])) → Opens back → VerbAt tokens front) ∧
      emulate? result = some result) ∧
    ∀ front flags letter rest, format.toList = front ++ '%' :: (flags ++ letter :: rest) →
      Odd (percentRun 0 (front ++ ['%'])) → IsFlags flags → isVerb letter = true →
      letter.isDigit = false → placeholder? letter = none → emulate? format = none := by
  constructor
  · intro result resolved
    obtain ⟨unmatched, -⟩ := emulate_eq_some_iff.mp resolved
    refine ⟨?_, emulate_eq_some_iff.mpr ⟨unmatched, substitute_of_unmatched unmatched⟩⟩
    obtain ⟨tokens, divided, shows, -, settled⟩ := division_of_emulate resolved
    refine ⟨tokens, divided, shows, ?_⟩
    intro front back joined odd opens
    rw [percent_run_percent, Nat.odd_add_one, Nat.not_odd_iff_even] at odd
    exact (settled front back ⟨divided.trans joined, opens⟩).mpr odd
  · intro front flags letter rest joined odd isFlags word isLetter unknown
    rw [percent_run_percent, Nat.odd_add_one, Nat.not_odd_iff_even] at odd
    rw [Option.eq_none_iff_forall_ne_some]
    intro result resolved
    obtain ⟨tokens, divided, -, -, settled⟩ := division_of_emulate resolved
    have place : IsPlace (source tokens) front (flags ++ letter :: rest) :=
      ⟨divided.trans joined, flags, letter, rest, isFlags, word, rfl⟩
    obtain ⟨before, verb, after, rfl, rfl⟩ := (settled _ _ place).mpr odd
    have behind : verb.flags ++ verb.letter :: source after = flags ++ letter :: rest := by
      rw [source_append, source_verb, joined] at divided
      simpa using divided
    obtain ⟨wordOwn, letterOwn, -⟩ := placeholder_shape verb.known
    obtain ⟨-, same, -⟩ :=
      letter_unique verb.isFlags isFlags wordOwn word letterOwn isLetter behind
    have known := verb.known
    rw [same, unknown] at known
    cases known

/-- Verbs with flags around an escape, an escape that is no verb, and a verb without
placeholder behind one that has it. -/
theorem escaped_widths_emulated :
    (emulate? "%5d%%%-3f|%%d" = some "1%%1.0|%%d" ∧
      ∃ tokens, source tokens = "%5d%%%-3f|%%d".toList ∧ shown tokens = "1%%1.0|%%d".toList ∧
        VerbAt tokens "%5d%%".toList ∧ emulate? "1%%1.0|%%d" = some "1%%1.0|%%d") ∧
    emulate? "id=%d name=%-7s" = none := by
  have resolved : emulate? "%5d%%%-3f|%%d" = some "1%%1.0|%%d" := by decide +kernel
  obtain ⟨⟨tokens, divided, shows, verbs⟩, again⟩ :=
    (emulated_format_has_no_operands "%5d%%%-3f|%%d").1 _ resolved
  have width : ∀ digit : Char, digit.isDigit = true → ∀ d ∈ [digit], d.isDigit = true := by
    intro digit isDigit d member
    rw [List.mem_singleton.mp member]
    exact isDigit
  refine ⟨⟨resolved, tokens, divided, shows, ?_, again⟩, ?_⟩
  · refine verbs "%5d%%".toList "-3f|%%d".toList (by decide) (by decide) ?_
    exact ⟨['-', '3'], 'f', "|%%d".toList, .leftWidth (by simp) (width '3' (by decide)), by decide,
      by decide⟩
  · refine (emulated_format_has_no_operands _).2 "id=%d name=".toList ['-', '7'] 's' [] ?_ ?_
      (.leftWidth (by simp) (width '7' (by decide))) ?_ ?_ ?_
    all_goals decide

end LiteralFlow.Format
