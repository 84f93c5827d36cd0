import LiteralFlow.Text.Blank
import Mathlib.Data.List.DropRight
import Mathlib.Data.List.TakeWhile

/-!
Trimming takes away the blanks at the two ends of a text and nothing else.
-/

namespace LiteralFlow.Text

/-- What is left of a text between the blanks at its ends. -/
structure Trims (text core : List Char) : Prop where
  within : ∃ before after, text = before ++ (core ++ after) ∧
    (∀ c ∈ before, isBlank c = true) ∧ ∀ c ∈ after, isBlank c = true
  first : ∀ c ∈ core.head?, isBlank c = false
  last : ∀ c ∈ core.getLast?, isBlank c = false

variable {text core before after : List Char} {c : Char}

theorem drop_blanks (blank : ∀ c ∈ before, isBlank c = true)
    (first : ∀ c ∈ core.head?, isBlank c = false) :
    (before ++ core).dropWhile isBlank = core := by
  rw [List.dropWhile_append_of_pos blank]
  cases core with
  | nil => rfl
  | cons c core =>
      have visible := first c rfl
      exact List.dropWhile_cons_of_neg (by rw [visible]; decide)

theorem head_drop_blanks (head : c ∈ (text.dropWhile isBlank).head?) : isBlank c = false := by
  have visible := List.head?_dropWhile_not isBlank text
  rw [Option.mem_def] at head
  rwa [head] at visible

theorem trims_trim (text : List Char) : Trims text (trimBlanks text) := by
  have front : text.takeWhile isBlank ++ text.dropWhile isBlank = text :=
    List.takeWhile_append_dropWhile
  have back : trimBlanks text ++ (text.dropWhile isBlank).rtakeWhile isBlank =
      text.dropWhile isBlank :=
    List.rdropWhile_append_rtakeWhile
  refine ⟨⟨_, _, front.symm.trans (congrArg (text.takeWhile isBlank ++ ·) back.symm), ?_, ?_⟩,
    ?_, ?_⟩
  · intro c member
    exact List.mem_takeWhile_imp member
  · intro c member
    exact List.mem_rtakeWhile_imp member
  · intro c head
    have whole : c ∈ (text.dropWhile isBlank).head? := by
      rw [← back, List.head?_append, Option.mem_def.mp head]
      rfl
    exact head_drop_blanks whole
  · intro c last
    rw [trimBlanks, List.getLast?_reverse] at last
    exact head_drop_blanks last

theorem trims_iff : Trims text core ↔ trimBlanks text = core := by
  constructor
  · intro trims
    obtain ⟨before, after, rfl, blankBefore, blankAfter⟩ := trims.within
    cases core with
    | nil =>
        have blank : ∀ c ∈ before ++ after, isBlank c = true := by
          intro c member
          exact (List.mem_append.mp member).elim (blankBefore c) (blankAfter c)
        have nothing : (before ++ after ++ []).dropWhile isBlank = [] := drop_blanks blank (by simp)
        rw [List.append_nil] at nothing
        rw [trimBlanks, List.nil_append, nothing]
        rfl
    | cons c core =>
        have front : (before ++ (c :: core ++ after)).dropWhile isBlank = c :: core ++ after :=
          drop_blanks blankBefore trims.first
        have back : (after.reverse ++ (c :: core).reverse).dropWhile isBlank =
            (c :: core).reverse := by
          apply drop_blanks
          · intro c member
            exact blankAfter c (List.mem_reverse.mp member)
          · rw [List.head?_reverse]
            exact trims.last
        rw [trimBlanks, front, List.reverse_append, back, List.reverse_reverse]
  · intro trimmed
    rw [← trimmed]
    exact trims_trim text

end LiteralFlow.Text
