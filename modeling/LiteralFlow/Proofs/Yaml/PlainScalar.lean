import LiteralFlow.Proofs.Yaml.Position
import LiteralFlow.Yaml.FlowScalar
import LiteralFlow.Yaml.Writer

/-!
Plain scalars read back. Text that can be written as it is ends only at the line
break after it, and a key only at its colon.
-/

namespace LiteralFlow.Yaml

variable {c d : Char} {indent column : Nat} {text rest key : List Char} {next : Cursor}

theorem ne_of_printable (printable : isPrintable c = true) (other : isPrintable d = false) :
    c ≠ d := by
  intro same
  rw [same, other] at printable
  exact Bool.false_ne_true printable

theorem eq_space_of_blank (printable : isPrintable c = true) (blank : isBlank c = true) :
    c = ' ' := by
  simp only [isBlank, Bool.or_eq_true, decide_eq_true_eq] at blank
  rcases blank with space | tab
  · exact space
  · exact absurd tab (ne_of_printable printable (by decide))

/-- What a token that ends at the end of the text sees before a line break. -/
theorem ends_token_before_break (text rest : List Char) :
    endsToken (text ++ '\n' :: rest) = endsToken text := by
  cases text with
  | nil => rfl
  | cons c text => rfl

/-- No end of a plain scalar stands at the first character, nor further on. -/
theorem plain_end_cons (endless : hasPlainEnd (c :: text) = false) :
    (c = ':' → endsToken text = false) ∧ (isBlank c = true → text.head? ≠ some '#') ∧
      hasPlainEnd text = false := by
  cases text with
  | nil =>
      refine ⟨?_, by simp, rfl⟩
      rintro rfl
      simp [hasPlainEnd] at endless
  | cons d text =>
      simp only [hasPlainEnd, Bool.or_eq_false_iff, Bool.and_eq_false_iff,
        decide_eq_false_iff_not] at endless
      obtain ⟨⟨colon, sign⟩, later⟩ := endless
      refine ⟨?_, ?_, later⟩
      · intro same
        simpa [endsToken, same] using colon
      · intro blank
        simpa [blank] using sign

theorem read_plain_indentation (first : Option Char) (more : List Char) (count column : Nat) :
    readPlain? false indent (.breaks first more) column (List.replicate count ' ' ++ text) =
      readPlain? false indent (.breaks first more) (column + count) text := by
  induction count generalizing column with
  | zero => rfl
  | succ count induction =>
      rw [List.replicate_succ, List.cons_append, readPlain?, if_neg (by decide),
        if_pos (by decide), if_neg (by simp)]
      rw [Gap.addBlank, induction, Nat.add_assoc, Nat.add_comm 1]

/-- A plain scalar ends at a line break before a line of less indentation. -/
theorem read_plain_break (resumes : Resumes rest next) (outside : next.column < indent) :
    readPlain? false indent Gap.none column ('\n' :: rest) = some ⟨[], true, true, next⟩ := by
  rw [readPlain?, if_pos (by decide)]
  cases resumes with
  | finish => rfl
  | line count key text =>
      have ends : ∀ c text,
          endsPlain false indent (Gap.none.addBreak '\n') count c text = true := by
        intro c text
        simp only at outside
        simp [endsPlain, Gap.none, Gap.addBreak, Gap.isNone, outside]
      rw [Gap.none, Gap.addBreak, read_plain_indentation, Nat.zero_add, readPlain?,
        if_neg (by simp [not_break_of_key_char key]), if_neg (by simp [not_blank_of_key_char key])]
      exact if_pos (ends _ _)

/-- A word goes on over a character that ends it nowhere. -/
theorem read_plain_cons {gap : Gap} (breakFree : isBreak c = false)
    (blankFree : isBlank c = false) (goesOn : endsPlain false indent gap column c text = false) :
    readPlain? false indent gap column (c :: text) =
      (readPlain? false indent Gap.none (column + 1) text).map (.precede gap [c]) := by
  simp [readPlain?, breakFree, blankFree, goesOn]

/-- A character that is no end of a plain scalar, after blanks of its line. -/
theorem plain_goes_on {pending : List Char} (inside : indent ≤ column)
    (sign : pending ≠ [] → c ≠ '#') (colon : c = ':' → endsToken text = false) :
    endsPlain false indent (.blanks pending) column c text = false := by
  have deep : ¬ column < indent := by omega
  simp only [endsPlain, Gap.isNone, Gap.crossesLine, deep]
  by_cases empty : pending = []
  · simpa [empty] using colon
  · simpa [sign empty] using colon

/-- The blanks before a word are kept, so that the text is read as it stands. -/
theorem read_plain_written (resumes : Resumes rest next) (outside : next.column < indent)
    (pending : List Char) (inside : indent ≤ column)
    (printable : ∀ c ∈ text, isPrintable c = true ∧ isBreak c = false)
    (last : text.getLast? ≠ some ' ') (endless : hasPlainEnd text = false)
    (sign : pending ≠ [] → text.head? ≠ some '#') (closed : text = [] → pending = []) :
    readPlain? false indent (.blanks pending) column (text ++ '\n' :: rest) =
      some ⟨pending.reverse ++ text, true, true, next⟩ := by
  induction text generalizing pending column with
  | nil =>
      rw [closed rfl]
      exact read_plain_break resumes outside
  | cons c text induction =>
      obtain ⟨colon, blankSign, later⟩ := plain_end_cons endless
      have ⟨first, others⟩ := List.forall_mem_cons.mp printable
      by_cases blank : isBlank c = true
      · -- A blank waits for the next word, and there is one since no blank is last.
        obtain rfl := eq_space_of_blank first.1 blank
        have more : text ≠ [] := by
          rintro rfl
          exact last rfl
        have lastLater : text.getLast? ≠ some ' ' := by
          rwa [List.getLast?_cons_of_ne_nil more] at last
        rw [List.cons_append, readPlain?, if_neg (by decide), if_pos (by decide),
          if_neg (by simp [Gap.crossesLine]), Gap.addBlank,
          induction (' ' :: pending) (by omega) others lastLater later (fun _ => blankSign rfl)
            (fun empty => absurd empty more)]
        simp
      · have blankFree : isBlank c = false := by simpa using blank
        have goesOn : endsPlain false indent (.blanks pending) column c (text ++ '\n' :: rest) =
            false := by
          apply plain_goes_on inside
          · intro waiting
            simpa using sign waiting
          · rw [ends_token_before_break]
            exact colon
        have lastLater : text.getLast? ≠ some ' ' := by
          cases text with
          | nil => simp
          | cons d text => rwa [List.getLast?_cons_cons] at last
        rw [List.cons_append, read_plain_cons first.2 blankFree goesOn]
        rw [show Gap.none = .blanks [] from rfl,
          induction [] (by omega) others lastLater later (fun empty => absurd rfl empty)
            (fun _ => rfl)]
        simp [ScalarScan.precede, Gap.fold, Gap.crossesLine]

/-- A key ends at the colon before its value. -/
theorem read_plain_key (characters : ∀ c ∈ key, isKeyChar c = true) (ends : endsToken text = true) :
    readPlain? false indent Gap.none column (key ++ ':' :: text) =
      some ⟨key, true, false, ⟨column + key.length, ':' :: text⟩⟩ := by
  induction key generalizing column with
  | nil =>
      have stops : endsPlain false indent Gap.none column ':' text = true := by
        simp [endsPlain, ends]
      rw [List.nil_append, readPlain?, if_neg (by decide), if_neg (by decide), if_pos stops]
      rfl
  | cons c key induction =>
      have ⟨first, others⟩ := List.forall_mem_cons.mp characters
      have goesOn : endsPlain false indent Gap.none column c (key ++ ':' :: text) = false := by
        simp [endsPlain, Gap.none, Gap.isNone, Gap.crossesLine,
          ne_of_key_char first (by decide : isKeyChar ':' = false)]
      rw [List.cons_append, read_plain_cons (not_break_of_key_char first)
        (not_blank_of_key_char first) goesOn, induction others]
      simp [ScalarScan.precede, Gap.fold, Gap.crossesLine, Gap.none, Nat.add_assoc, Nat.add_comm 1]

theorem starts_plain_of_token (token : startsOtherToken (c :: text) = false)
    (blankFree : isBlank c = false) (breakFree : isBreak c = false) :
    startsPlain false c (text ++ '\n' :: rest) = true := by
  unfold startsOtherToken at token
  rw [startsPlain, ends_token_before_break]
  split at token
  all_goals grind

end LiteralFlow.Yaml
