import LiteralFlow.Format
import Mathlib.Data.List.Basic
import Mathlib.Data.List.TakeWhile

/-!
Where a directive is found. A percent sign can begin a directive when flags and a
verb stand behind it, and the search finds it unless exactly one percent sign stands
before it.
-/

namespace LiteralFlow.Format

/-- What can stand between the percent sign and the verb. -/
inductive IsFlags : List Char → Prop where
  | absent : IsFlags []
  | plus : IsFlags ['+']
  | sharp : IsFlags ['#']
  | width {digits : List Char} (nonempty : digits ≠ [])
      (each : ∀ digit ∈ digits, digit.isDigit = true) : IsFlags digits
  | leftWidth {digits : List Char} (nonempty : digits ≠ [])
      (each : ∀ digit ∈ digits, digit.isDigit = true) : IsFlags ('-' :: digits)

def Opens (text : List Char) : Prop :=
  ∃ flags verb rest, IsFlags flags ∧ isVerb verb = true ∧ text = flags ++ verb :: rest

/-- Behind `front` stands a percent sign that can begin a directive. -/
def IsPlace (text front back : List Char) : Prop :=
  text = front ++ '%' :: back ∧ Opens back

/-- The number of percent signs at the end of a text with `run` of them before it. -/
def percentRun (run : Nat) (text : List Char) : Nat :=
  text.foldl (fun run c => if c = '%' then run + 1 else 0) run

variable {text front back flags rest sign digits : List Char} {verb c : Char}
  {directive : Directive} {atStart : Bool} {run : Nat}

theorem is_verb_of_digit (digit : c.isDigit = true) : isVerb c = true := by
  have word : c.isAlphanum = true := Bool.or_eq_true_iff.mpr (.inr digit)
  rw [isVerb, word, Bool.true_or]

theorem ne_of_verb (word : isVerb verb = true) :
    verb ≠ '%' ∧ verb ≠ '-' ∧ verb ≠ '+' ∧ verb ≠ '#' := by
  refine ⟨?_, ?_, ?_, ?_⟩
  all_goals
    rintro rfl
    exact absurd word (by decide)

theorem percent_not_mem_digits (each : ∀ digit ∈ digits, digit.isDigit = true) :
    '%' ∉ digits := by
  intro member
  exact absurd (each '%' member) (by decide)

theorem IsFlags.percent_not_mem (isFlags : IsFlags flags) : '%' ∉ flags := by
  cases isFlags with
  | absent => exact List.not_mem_nil
  | plus => decide
  | sharp => decide
  | width _ each => exact percent_not_mem_digits each
  | leftWidth _ each =>
      rw [List.mem_cons, not_or]
      exact ⟨by decide, percent_not_mem_digits each⟩

theorem IsFlags.percent_not_mem_verb (isFlags : IsFlags flags) (word : isVerb verb = true) :
    '%' ∉ flags ++ [verb] := by
  rw [List.mem_append, not_or, List.mem_singleton]
  exact ⟨isFlags.percent_not_mem, (ne_of_verb word).1.symm⟩

theorem Opens.not_percent (opens : Opens back) : back.head? ≠ some '%' := by
  obtain ⟨flags, verb, rest, isFlags, word, rfl⟩ := opens
  intro head
  rw [List.append_cons, List.head?_append_of_ne_nil _ (by simp)] at head
  exact isFlags.percent_not_mem_verb word (List.mem_of_mem_head? head)

/-! ### Reading a directive -/

theorem plain_sound (read : Directive.plain? flags text = some directive) :
    directive.flags = flags ∧ isVerb directive.verb = true ∧
      text = directive.verb :: directive.rest := by
  cases text with
  | nil => cases read
  | cons verb rest =>
      simp only [Directive.plain?, Option.ite_none_right_eq_some, Option.some.injEq] at read
      obtain ⟨word, rfl⟩ := read
      exact ⟨rfl, word, rfl⟩

theorem plain_of_verb (word : isVerb verb = true) :
    Directive.plain? flags (verb :: rest) = some ⟨flags, verb, rest⟩ :=
  if_pos word

theorem wide_sound (read : Directive.wide? sign text = some directive) :
    ∃ digits, digits ≠ [] ∧ (∀ digit ∈ digits, digit.isDigit = true) ∧
      directive.flags = sign ++ digits ∧ isVerb directive.verb = true ∧
      text = digits ++ directive.verb :: directive.rest := by
  have whole := List.takeWhile_append_dropWhile (p := Char.isDigit) (l := text)
  have each : ∀ digit ∈ text.takeWhile Char.isDigit, digit.isDigit = true :=
    fun _ member => List.mem_takeWhile_imp member
  simp only [Directive.wide?] at read
  split at read
  · cases read
  · rename_i nonempty
    split at read
    · rename_i inner
      cases read
      obtain ⟨sameFlags, word, behind⟩ := plain_sound inner
      rw [behind] at whole
      exact ⟨_, by simpa using nonempty, each, sameFlags, word, whole.symm⟩
    · split at read
      · rename_i last isLast
        split at read
        · rename_i two
          cases read
          -- No other character can be the verb, so the last digit of the run is.
          obtain ⟨before, run⟩ := List.getLast?_eq_some_iff.mp isLast
          rw [run] at whole each two
          refine ⟨before, ?_, fun digit member => each digit (by simp [member]), ?_,
            is_verb_of_digit (each last (by simp)), ?_⟩
          · rintro rfl
            simp at two
          · rw [run, List.dropLast_concat]
          · rw [List.append_assoc] at whole
            exact whole.symm
        · cases read
      · cases read

theorem wide_of_letter (nonempty : digits ≠ []) (each : ∀ digit ∈ digits, digit.isDigit = true)
    (word : isVerb verb = true) (letter : verb.isDigit = false) :
    Directive.wide? sign (digits ++ verb :: rest) = some ⟨sign ++ digits, verb, rest⟩ := by
  have taken : (digits ++ verb :: rest).takeWhile Char.isDigit = digits := by
    rw [List.takeWhile_append_of_pos each, List.takeWhile_cons_of_neg (by simp [letter]),
      List.append_nil]
  have left : (digits ++ verb :: rest).dropWhile Char.isDigit = verb :: rest := by
    rw [List.dropWhile_append_of_pos each, List.dropWhile_cons_of_neg (by simp [letter])]
  simp only [Directive.wide?, taken, left, plain_of_verb word, List.isEmpty_iff, nonempty, if_false]

theorem wide_is_some (nonempty : digits ≠ []) (each : ∀ digit ∈ digits, digit.isDigit = true)
    (word : isVerb verb = true) :
    (Directive.wide? sign (digits ++ verb :: rest)).isSome = true := by
  cases kind : verb.isDigit with
  | false => rw [wide_of_letter nonempty each word kind, Option.isSome_some]
  | true =>
      have taken : (digits ++ verb :: rest).takeWhile Char.isDigit =
          digits ++ verb :: rest.takeWhile Char.isDigit := by
        rw [List.takeWhile_append_of_pos each, List.takeWhile_cons_of_pos kind]
      have two : 2 ≤ (digits ++ verb :: rest.takeWhile Char.isDigit).length := by
        have positive := List.length_pos_iff.mpr nonempty
        simp only [List.length_append, List.length_cons]
        omega
      have isLast := List.getLast?_eq_some_getLast
        (l := digits ++ verb :: rest.takeWhile Char.isDigit) (by simp)
      simp only [Directive.wide?, taken, isLast, ge_iff_le, two, if_true]
      split
      · rename_i empty
        simp at empty
      · split
        · rfl
        · rfl

/-- Only a minus sign, a plus sign and a number sign direct the reading. -/
theorem read_other (minus : c ≠ '-') (plus : c ≠ '+') (sharp : c ≠ '#') :
    Directive.read? (c :: text) =
      (Directive.wide? [] (c :: text)).or (Directive.plain? [] (c :: text)) := by
  unfold Directive.read?
  split
  · rename_i same
    exact absurd (List.cons.inj same).1 minus
  · rename_i same
    exact absurd (List.cons.inj same).1 plus
  · rename_i same
    exact absurd (List.cons.inj same).1 sharp
  · rfl

theorem read_sound (read : Directive.read? text = some directive) :
    IsFlags directive.flags ∧ isVerb directive.verb = true ∧
      text = directive.flags ++ directive.verb :: directive.rest := by
  unfold Directive.read? at read
  split at read
  · obtain ⟨digits, nonempty, each, sameFlags, word, rfl⟩ := wide_sound read
    rw [sameFlags]
    exact ⟨.leftWidth nonempty each, word, rfl⟩
  · obtain ⟨sameFlags, word, rfl⟩ := plain_sound read
    rw [sameFlags]
    exact ⟨.plus, word, rfl⟩
  · obtain ⟨sameFlags, word, rfl⟩ := plain_sound read
    rw [sameFlags]
    exact ⟨.sharp, word, rfl⟩
  · rw [Option.or_eq_some_iff] at read
    rcases read with wide | ⟨_, plain⟩
    · obtain ⟨digits, nonempty, each, sameFlags, word, rfl⟩ := wide_sound wide
      rw [sameFlags]
      exact ⟨.width nonempty each, word, rfl⟩
    · obtain ⟨sameFlags, word, rfl⟩ := plain_sound plain
      rw [sameFlags]
      exact ⟨.absent, word, rfl⟩

/-- A width begins with a digit, so it does not direct the reading. -/
theorem read_width (nonempty : digits ≠ []) (each : ∀ digit ∈ digits, digit.isDigit = true) :
    Directive.read? (digits ++ text) =
      (Directive.wide? [] (digits ++ text)).or (Directive.plain? [] (digits ++ text)) := by
  cases digits with
  | nil => exact absurd rfl nonempty
  | cons first digits =>
      obtain ⟨-, minus, plus, sharp⟩ := ne_of_verb (is_verb_of_digit (each first (by simp)))
      exact read_other minus plus sharp

/-- A verb that is no digit ends its flags in one way only. -/
theorem read_of_letter (isFlags : IsFlags flags) (word : isVerb verb = true)
    (letter : verb.isDigit = false) :
    Directive.read? (flags ++ verb :: rest) = some ⟨flags, verb, rest⟩ := by
  cases isFlags with
  | absent =>
      obtain ⟨-, minus, plus, sharp⟩ := ne_of_verb word
      have narrow : Directive.wide? [] (verb :: rest) = none := by
        simp [Directive.wide?, letter]
      rw [List.nil_append, read_other minus plus sharp, narrow, plain_of_verb word, Option.none_or]
  | plus => exact plain_of_verb word
  | sharp => exact plain_of_verb word
  | width nonempty each =>
      rw [read_width nonempty each, wide_of_letter nonempty each word letter, Option.some_or]
      rfl
  | leftWidth nonempty each => exact wide_of_letter nonempty each word letter

theorem letter_unique {flags' rest' : List Char} {verb' : Char} (isFlags : IsFlags flags)
    (isFlags' : IsFlags flags') (word : isVerb verb = true) (word' : isVerb verb' = true)
    (letter : verb.isDigit = false) (letter' : verb'.isDigit = false)
    (same : flags ++ verb :: rest = flags' ++ verb' :: rest') :
    flags = flags' ∧ verb = verb' ∧ rest = rest' := by
  have read : Directive.read? (flags ++ verb :: rest) = some ⟨flags, verb, rest⟩ :=
    read_of_letter isFlags word letter
  rw [same, read_of_letter isFlags' word' letter'] at read
  cases read
  exact ⟨rfl, rfl, rfl⟩

theorem read_is_some_iff : (Directive.read? text).isSome = true ↔ Opens text := by
  constructor
  · intro found
    obtain ⟨directive, read⟩ := Option.isSome_iff_exists.mp found
    obtain ⟨isFlags, word, joined⟩ := read_sound read
    exact ⟨_, _, _, isFlags, word, joined⟩
  · intro opens
    obtain ⟨flags, verb, rest, isFlags, word, rfl⟩ := opens
    cases isFlags with
    | absent =>
        obtain ⟨-, minus, plus, sharp⟩ := ne_of_verb word
        rw [List.nil_append, read_other minus plus sharp, plain_of_verb word, Option.isSome_or]
        simp
    | plus => exact Option.isSome_of_eq_some (plain_of_verb word)
    | sharp => exact Option.isSome_of_eq_some (plain_of_verb word)
    | width nonempty each =>
        rw [read_width nonempty each, Option.isSome_or, wide_is_some nonempty each word,
          Bool.true_or]
    | leftWidth nonempty each => exact wide_is_some nonempty each word

/-! ### Runs of percent signs -/

theorem percent_run_append (run : Nat) (front back : List Char) :
    percentRun run (front ++ back) = percentRun (percentRun run front) back :=
  List.foldl_append

theorem percent_run_percent (run : Nat) (front : List Char) :
    percentRun run (front ++ ['%']) = percentRun run front + 1 := by
  rw [percent_run_append]
  rfl

theorem percent_run_other (run : Nat) (front : List Char) (other : c ≠ '%') :
    percentRun run (front ++ [c]) = 0 := by
  rw [percent_run_append]
  exact if_neg other

theorem percent_run_plain (run : Nat) (nonempty : text ≠ []) (plain : '%' ∉ text) :
    percentRun run text = 0 := by
  rcases List.eq_nil_or_concat' text with rfl | ⟨front, last, rfl⟩
  · exact absurd rfl nonempty
  · rw [List.mem_append, not_or, List.mem_singleton] at plain
    exact percent_run_other run front (Ne.symm plain.2)

theorem eq_of_percent_run (counted : percentRun 0 text = run + 1) :
    ∃ front, text = front ++ ['%'] ∧ percentRun 0 front = run := by
  rcases List.eq_nil_or_concat' text with rfl | ⟨front, last, rfl⟩
  · cases counted
  · by_cases same : last = '%'
    · rw [same, percent_run_percent] at counted
      exact ⟨front, by rw [same], Nat.succ.inj counted⟩
    · rw [percent_run_other 0 front same] at counted
      cases counted

/-! ### Finding a directive -/

/-- What the search accepts before the percent sign of a directive: the start of the
text, another character, or two percent signs. -/
inductive Leads : Bool → List Char → Prop where
  | start : Leads true []
  | char {atStart : Bool} (before : List Char) {c : Char} (other : c ≠ '%') :
      Leads atStart (before ++ [c])
  | escape {atStart : Bool} (before : List Char) : Leads atStart (before ++ ['%', '%'])

theorem Leads.behind (leads : Leads false front) (c : Char) : Leads atStart (c :: front) := by
  cases leads with
  | char before other => exact .char (c :: before) other
  | escape before => exact .escape (c :: before)

theorem Leads.anywhere (leads : Leads false front) : Leads atStart front := by
  cases leads with
  | char before other => exact .char before other
  | escape before => exact .escape before

theorem leads_iff : Leads true front ↔ percentRun 0 front ≠ 1 := by
  constructor
  · intro leads
    cases leads with
    | start => decide
    | char before other =>
        rw [percent_run_other 0 before other]
        decide
    | escape before =>
        rw [show before ++ ['%', '%'] = (before ++ ['%']) ++ ['%'] by simp, percent_run_percent,
          percent_run_percent]
        omega
  · intro several
    rcases List.eq_nil_or_concat' front with rfl | ⟨before, last, rfl⟩
    · exact .start
    · by_cases same : last = '%'
      · rw [same, percent_run_percent] at several
        obtain ⟨run, counted⟩ := Nat.exists_eq_succ_of_ne_zero (n := percentRun 0 before) (by omega)
        obtain ⟨before, rfl, -⟩ := eq_of_percent_run counted
        rw [same, List.append_assoc]
        exact .escape before
      · exact .char before same

theorem escapes_lead (text : List Char) :
    ∃ before, '%' :: '%' :: escapes text = before ++ ['%', '%'] := by
  fun_induction escapes text with
  | case1 rest induction =>
      obtain ⟨before, ends⟩ := induction
      exact ⟨'%' :: '%' :: before, by rw [ends]; rfl⟩
  | case2 => exact ⟨[], rfl⟩

theorem of_percent_sound (read : Directive.ofPercent? text = some directive) :
    IsFlags directive.flags ∧ isVerb directive.verb = true ∧
      text = '%' :: (directive.flags ++ directive.verb :: directive.rest) := by
  unfold Directive.ofPercent? at read
  split at read
  · obtain ⟨isFlags, word, rfl⟩ := read_sound read
    exact ⟨isFlags, word, rfl⟩
  · cases read

theorem inside_sound {found : Match} (matched : inside? text = some found) :
    IsFlags found.directive.flags ∧ isVerb found.directive.verb = true ∧
      text = found.lead ++
        '%' :: (found.directive.flags ++ found.directive.verb :: found.directive.rest) ∧
      Leads false found.lead := by
  unfold inside? at matched
  split at matched
  · cases matched
  · rename_i tail
    simp only [Option.map_eq_some_iff] at matched
    obtain ⟨directive, read, rfl⟩ := matched
    obtain ⟨isFlags, word, behind⟩ := of_percent_sound read
    have joined := escapes_append_drop_escapes tail
    rw [behind] at joined
    obtain ⟨before, ends⟩ := escapes_lead tail
    refine ⟨isFlags, word, congrArg ('%' :: '%' :: ·) joined.symm, ?_⟩
    rw [ends]
    exact .escape before
  · rename_i c tail _
    split at matched
    · cases matched
    · rename_i other
      simp only [Option.map_eq_some_iff] at matched
      obtain ⟨directive, read, rfl⟩ := matched
      obtain ⟨isFlags, word, rfl⟩ := of_percent_sound read
      exact ⟨isFlags, word, rfl, .char [] other⟩

theorem match_at_sound {found : Match} (matched : matchAt? atStart text = some found) :
    IsFlags found.directive.flags ∧ isVerb found.directive.verb = true ∧
      text = found.lead ++
        '%' :: (found.directive.flags ++ found.directive.verb :: found.directive.rest) ∧
      Leads atStart found.lead := by
  cases atStart with
  | false => exact inside_sound matched
  | true =>
      simp only [matchAt?, if_true, Option.or_eq_some_iff] at matched
      rcases matched with first | ⟨-, later⟩
      · simp only [Option.map_eq_some_iff] at first
        obtain ⟨directive, read, rfl⟩ := first
        obtain ⟨isFlags, word, rfl⟩ := of_percent_sound read
        exact ⟨isFlags, word, rfl, .start⟩
      · obtain ⟨isFlags, word, joined, leads⟩ := inside_sound later
        exact ⟨isFlags, word, joined, leads.anywhere⟩

theorem inside_char (other : c ≠ '%') (text : List Char) :
    inside? (c :: text) = (Directive.ofPercent? text).map (⟨[c], ·⟩) := by
  unfold inside?
  split
  · rename_i empty
    cases empty
  · rename_i same
    exact absurd (List.cons.inj same).1 other
  · rename_i same
    cases same
    exact if_neg other

theorem drop_escapes_single (single : back.head? ≠ some '%') :
    dropEscapes ('%' :: back) = '%' :: back := by
  rw [dropEscapes]
  rintro rest same
  rw [(List.cons.inj same).2] at single
  exact single rfl

theorem inside_escape (single : back.head? ≠ some '%') :
    inside? ('%' :: '%' :: '%' :: back) = (Directive.read? back).map (⟨['%', '%'], ·⟩) := by
  have unescaped : escapes ('%' :: back) = [] := by
    rw [escapes]
    rintro rest same
    rw [(List.cons.inj same).2] at single
    exact single rfl
  rw [inside?, unescaped, drop_escapes_single single]
  rfl

theorem has_match_behind (found : hasMatch false text = true) (atStart : Bool)
    (before : List Char) : hasMatch atStart (before ++ text) = true := by
  induction before generalizing atStart with
  | nil =>
      cases text with
      | nil => exact found
      | cons c rest =>
          simp only [hasMatch, matchAt?, Bool.or_eq_true] at found
          simp only [List.nil_append, hasMatch, matchAt?, Bool.or_eq_true]
          rcases found with here | later
          · left
            split
            · rw [Option.isSome_or, Bool.or_eq_true]
              exact .inr here
            · exact here
          · exact .inr later
  | cons c before induction =>
      rw [List.cons_append, hasMatch, induction, Bool.or_true]

/-- The search finds a directive exactly where one can begin and is led to. -/
theorem has_match_iff_leads :
    hasMatch atStart text = true ↔ ∃ front back, IsPlace text front back ∧ Leads atStart front := by
  constructor
  · intro found
    induction text generalizing atStart with
    | nil => cases found
    | cons c rest induction =>
        rw [hasMatch, Bool.or_eq_true] at found
        rcases found with here | later
        · obtain ⟨found, matched⟩ := Option.isSome_iff_exists.mp here
          obtain ⟨isFlags, word, joined, leads⟩ := match_at_sound matched
          exact ⟨_, _, ⟨joined, _, _, _, isFlags, word, rfl⟩, leads⟩
        · obtain ⟨front, back, ⟨joined, opens⟩, leads⟩ := induction later
          exact ⟨c :: front, back, ⟨congrArg (c :: ·) joined, opens⟩, leads.behind c⟩
  · intro place
    obtain ⟨front, back, ⟨rfl, opens⟩, leads⟩ := place
    have read := read_is_some_iff.mpr opens
    cases leads with
    | start =>
        rw [List.nil_append, hasMatch, matchAt?, if_pos rfl, Option.isSome_or, Option.isSome_map,
          Directive.ofPercent?, read]
        simp
    | @char _ before c other =>
        have here : hasMatch false (c :: '%' :: back) = true := by
          rw [hasMatch, matchAt?, if_neg (by decide), inside_char other, Option.isSome_map,
            Directive.ofPercent?, read, Bool.true_or]
        rw [List.append_assoc]
        exact has_match_behind here atStart before
    | escape before =>
        have here : hasMatch false ('%' :: '%' :: '%' :: back) = true := by
          rw [hasMatch, matchAt?, if_neg (by decide), inside_escape opens.not_percent,
            Option.isSome_map, read, Bool.true_or]
        rw [List.append_assoc]
        exact has_match_behind here atStart before

theorem has_match_iff :
    hasMatch true text = true ↔ ∃ front back, IsPlace text front back ∧ percentRun 0 front ≠ 1 := by
  simp only [has_match_iff_leads, leads_iff]

end LiteralFlow.Format
