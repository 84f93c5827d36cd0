import LiteralFlow.Text.Cut

/-!
A cut divides a text around a separator, and there is no later occurrence of the
separator where it begins with a character that the text after it does not have.
A separator of one character divides a text in one way only.
-/

namespace LiteralFlow.Text

theorem eq_of_cut_last {separator text before after : List Char}
    (cut : cutLast? separator text = some (before, after)) :
    text = before ++ separator ++ after := by
  induction text generalizing before with
  | nil => cases cut
  | cons c text induction =>
      simp only [cutLast?] at cut
      split at cut
      · rename_i front back inner
        cases cut
        rw [induction inner]
        rfl
      · split at cut
        · rename_i starts
          cases cut
          obtain ⟨rest, joined⟩ := List.isPrefixOf_iff_prefix.mp starts
          rw [← joined, List.drop_left, List.nil_append]
        · cases cut

theorem cut_last_of_not_mem {separator text : List Char} {c : Char} (member : c ∈ separator)
    (absent : c ∉ text) : cutLast? separator text = none := by
  cases cut : cutLast? separator text with
  | none => rfl
  | some parts =>
      rw [eq_of_cut_last cut] at absent
      simp [member] at absent

theorem cut_last_append {c : Char} {separator after : List Char} (absent : c ∉ separator ++ after)
    (before : List Char) :
    cutLast? (c :: separator) (before ++ c :: separator ++ after) = some (before, after) := by
  induction before with
  | nil =>
      have later : cutLast? (c :: separator) (separator ++ after) = none :=
        cut_last_of_not_mem List.mem_cons_self absent
      have starts : (c :: separator).isPrefixOf (c :: (separator ++ after)) = true :=
        List.isPrefixOf_iff_prefix.mpr ⟨after, rfl⟩
      simp only [List.nil_append, List.cons_append, cutLast?, later, starts, if_true]
      simp
  | cons first before induction =>
      simp only [List.cons_append, List.append_assoc] at induction ⊢
      rw [cutLast?, induction]

/-- A text without a cut at a character does not have that character. -/
theorem not_mem_of_cut_last {c : Char} {text : List Char} (uncut : cutLast? [c] text = none) :
    c ∉ text := by
  induction text with
  | nil => exact List.not_mem_nil
  | cons first text induction =>
      simp only [cutLast?] at uncut
      split at uncut
      · cases uncut
      · rename_i later
        split at uncut
        · cases uncut
        · rename_i other
          rw [List.mem_cons, not_or]
          exact ⟨by simpa using other, induction later⟩

theorem not_mem_after_cut_last {c : Char} {text before after : List Char}
    (cut : cutLast? [c] text = some (before, after)) : c ∉ after := by
  induction text generalizing before with
  | nil => cases cut
  | cons first text induction =>
      simp only [cutLast?] at cut
      split at cut
      · rename_i front back inner
        cases cut
        exact induction inner
      · rename_i later
        split at cut
        · cases cut
          exact not_mem_of_cut_last later
        · cases cut

/-- A cut at a character is the division with no such character behind it. -/
theorem cut_last_eq_some_iff {c : Char} {text before after : List Char} :
    cutLast? [c] text = some (before, after) ↔ text = before ++ c :: after ∧ c ∉ after := by
  constructor
  · intro cut
    have joined := eq_of_cut_last cut
    rw [List.append_assoc] at joined
    exact ⟨joined, not_mem_after_cut_last cut⟩
  · intro divided
    rcases divided with ⟨rfl, absent⟩
    have cut : cutLast? [c] (before ++ [c] ++ after) = some (before, after) :=
      cut_last_append absent before
    rwa [List.append_assoc] at cut

/-- Only one division has no such character behind it. -/
theorem last_division_unique {c : Char} {before before' after after' : List Char}
    (same : before ++ c :: after = before' ++ c :: after') (absent : c ∉ after)
    (absent' : c ∉ after') : before = before' ∧ after = after' := by
  have cut := cut_last_eq_some_iff.mpr ⟨same, absent'⟩
  rw [cut_last_eq_some_iff.mpr ⟨rfl, absent⟩] at cut
  cases cut
  exact ⟨rfl, rfl⟩

end LiteralFlow.Text
