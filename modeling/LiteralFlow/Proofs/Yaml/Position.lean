import LiteralFlow.Yaml.Cursor

/-!
Where the next entry of a mapping starts. A value that is read to its end leaves
the reader at the key in the line after it, or at the end of the document.
-/

namespace LiteralFlow.Yaml

variable {c d mark : Char} {column : Nat} {rest text : List Char} {next : Cursor}

def isKeyChar (c : Char) : Bool :=
  c.isDigit || (97 ≤ c.toNat && c.toNat ≤ 122) || c = '_'

theorem ne_of_key_char (key : isKeyChar c = true) (other : isKeyChar d = false) : c ≠ d := by
  intro same
  rw [same, other] at key
  exact Bool.false_ne_true key

theorem not_break_of_key_char (key : isKeyChar c = true) : isBreak c = false := by
  simp only [isBreak, Bool.or_eq_false_iff, decide_eq_false_iff_not]
  refine ⟨⟨⟨⟨?_, ?_⟩, ?_⟩, ?_⟩, ?_⟩
  all_goals exact ne_of_key_char key (by decide)

theorem not_blank_of_key_char (key : isKeyChar c = true) : isBlank c = false := by
  simp only [isBlank, Bool.or_eq_false_iff, decide_eq_false_iff_not]
  exact ⟨ne_of_key_char key (by decide), ne_of_key_char key (by decide)⟩

theorem not_indicator_of_key_char (key : isKeyChar c = true) : isIndicator c = false := by
  have noneIsKey : ['-', '?', ':', ',', '[', ']', '\x7b', '\x7d', '#', '&', '*', '!', '|', '>',
      '\x27', '\x22', '%', '@', '\x60'].all (!isKeyChar ·) = true := by decide
  simp only [isIndicator, decide_eq_false_iff_not]
  intro member
  have other := List.all_eq_true.mp noneIsKey c member
  rw [key] at other
  exact Bool.false_ne_true other

namespace Cursor

theorem marker_eq_none (other : c ≠ mark) : marker? mark ⟨column, c :: text⟩ = none := by
  unfold marker?
  split
  · rename_i same
    injection same with _ same
    injection same with same _
    exact if_neg fun marked => other (same.trans marked.1)
  · rfl

theorem not_marker (dash : c ≠ '-') (dot : c ≠ '.') : isMarker ⟨column, c :: text⟩ = false := by
  rw [isMarker, marker_eq_none dash, marker_eq_none dot]
  rfl

theorem not_marker_inside (inside : 0 < column) : isMarker ⟨column, text⟩ = false := by
  cases column with
  | zero => exact absurd inside (Nat.lt_irrefl 0)
  | succ column => rfl

end Cursor

/-- The text that follows the line break of a value, and the position of the
next key in it. -/
inductive Resumes : List Char → Cursor → Prop
  | finish : Resumes [] ⟨0, []⟩
  | line (column : Nat) {c : Char} (key : isKeyChar c = true) (text : List Char) :
      Resumes (List.replicate column ' ' ++ c :: text) ⟨column, c :: text⟩

theorem skip_spaces (flow fresh : Bool) (count column : Nat) (text : List Char) :
    skipFrom flow fresh false column (List.replicate count ' ' ++ text) =
      skipFrom flow fresh false (column + count) text := by
  induction count generalizing column with
  | zero => rfl
  | succ count induction =>
      rw [List.replicate_succ, List.cons_append, skipFrom, if_neg (by decide),
        if_neg Bool.false_ne_true, if_pos (Or.inl rfl), induction, Nat.add_assoc, Nat.add_comm 1]

/-- A character that neither is skipped nor starts a comment. -/
theorem skip_stops {flow fresh : Bool} (breakFree : isBreak c = false)
    (blankFree : isBlank c = false) (sign : c ≠ '#') (byteMark : c ≠ orderMark) :
    skipFrom flow fresh false column (c :: text) = (fresh, ⟨column, c :: text⟩) := by
  simp only [isBlank, Bool.or_eq_false_iff, decide_eq_false_iff_not] at blankFree
  simp [skipFrom, breakFree, blankFree, sign, byteMark]

theorem skip_stops_at_key {flow fresh : Bool} (key : isKeyChar c = true) :
    skipFrom flow fresh false column (c :: text) = (fresh, ⟨column, c :: text⟩) :=
  skip_stops (not_break_of_key_char key) (not_blank_of_key_char key)
    (ne_of_key_char key (by decide)) (ne_of_key_char key (by decide))

namespace Resumes

theorem skip_rest (resumes : Resumes rest next) :
    skipFrom false true false 0 rest = (true, next) := by
  cases resumes with
  | finish => rfl
  | line column key text => rw [skip_spaces, skip_stops_at_key key, Nat.zero_add]

theorem skip_next (resumes : Resumes rest next) : next.skip false true = (true, next) := by
  cases resumes with
  | finish => rfl
  | line column key text => exact skip_stops_at_key key

/-- After the line break the reader moves on to the next key. -/
theorem skip_break (resumes : Resumes rest next) (column : Nat) :
    Cursor.skip ⟨column, '\n' :: rest⟩ false false = (true, next) :=
  resumes.skip_rest

theorem not_marker (resumes : Resumes rest next) : next.isMarker = false := by
  cases resumes with
  | finish => rfl
  | line column key text =>
      exact Cursor.not_marker (ne_of_key_char key (by decide)) (ne_of_key_char key (by decide))

end Resumes

end LiteralFlow.Yaml
