import LiteralFlow.Proofs.Yaml.PlainScalar
import LiteralFlow.Yaml.BlockScalar

/-!
Literal blocks read back. The lines of a block keep their text, and the header
says what becomes of the line breaks after the last of them.
-/

namespace LiteralFlow.Yaml

variable {c : Char} {column : Nat} {text rest : List Char} {next : Cursor} {scan : BlockScan}

/-- Text as the lines of a block hold it: a last line without line break gets
one. -/
def closeLine : Bool → List Char → List Char
  | lineStart, [] => if lineStart then [] else ['\n']
  | _, c :: text => c :: closeLine (isBreak c) text

theorem close_line_concat (lineStart : Bool) (front : List Char) (c : Char) :
    closeLine lineStart (front ++ [c]) = front ++ c :: if isBreak c then [] else ['\n'] := by
  induction front generalizing lineStart with
  | nil => rfl
  | cons d front induction => rw [List.cons_append, closeLine, induction, List.cons_append]

/-- A block whose lines hold `lines`, divided into content and final breaks. -/
structure BlockScan.Holds (scan : BlockScan) (lines : List Char) (next : Cursor) : Prop where
  joined : scan.text ++ (scan.last.toList ++ scan.trailing) = lines
  content : ∀ c ∈ scan.text.getLast?, isBreak c = false
  breaks : ∀ c ∈ scan.last.toList ++ scan.trailing, isBreak c = true
  lasting : scan.text ≠ [] → scan.last.isSome = true
  cursor : scan.cursor = next

/-- Text is divided in only one way into content and the breaks after it. -/
theorem content_unique {front front' breaks breaks' : List Char}
    (same : front ++ breaks = front' ++ breaks')
    (content : ∀ c ∈ front.getLast?, isBreak c = false) (all : ∀ c ∈ breaks, isBreak c = true)
    (content' : ∀ c ∈ front'.getLast?, isBreak c = false) (all' : ∀ c ∈ breaks', isBreak c = true) :
    front = front' ∧ breaks = breaks' := by
  -- What one division counts as content beyond the other would be made of breaks.
  have noneBetween : ∀ {shorter between tail : List Char},
      (∀ c ∈ (shorter ++ between).getLast?, isBreak c = false) →
        (∀ c ∈ between ++ tail, isBreak c = true) → between = [] := by
    intro shorter between tail ends all
    by_cases empty : between = []
    · exact empty
    · have last := List.getLast?_eq_some_getLast empty
      have noBreak := ends (between.getLast empty) (by simp [List.getLast?_append, last])
      have aBreak := all (between.getLast empty)
        (List.mem_append_left tail (List.getLast_mem empty))
      exact absurd (noBreak.symm.trans aBreak) Bool.false_ne_true
  rcases List.append_eq_append_iff.mp same with ⟨between, rfl, rfl⟩ | ⟨between, rfl, rfl⟩
  · have empty := noneBetween content' all
    simp [empty]
  · have empty := noneBetween content all'
    simp [empty]

theorem read_block_indentation {last : Option Char} {trailing : List Char} {blank : Bool}
    (count : Nat) (within : column + count ≤ 4) :
    readBlock? false 4 false last trailing blank column (List.replicate count ' ' ++ text) =
      readBlock? false 4 false last trailing blank (column + count) text := by
  induction count generalizing column with
  | zero => rfl
  | succ count induction =>
      rw [List.replicate_succ, List.cons_append, readBlock?, if_pos ⟨rfl, by omega⟩,
        induction (by omega), Nat.add_assoc, Nat.add_comm 1]

/-- A block ends before a line of less indentation. -/
theorem read_block_end {last : Option Char} {trailing : List Char} {blank : Bool}
    (resumes : Resumes rest next) (outside : next.column < 4) :
    readBlock? false 4 false last trailing blank 0 rest =
      some ⟨[], last, trailing.reverse, next⟩ := by
  cases resumes with
  | finish => rfl
  | line count key text =>
      simp only at outside
      rw [read_block_indentation count (by omega), readBlock?,
        if_neg fun space => ne_of_key_char key (by decide) space.1,
        if_neg fun tab => ne_of_key_char key (by decide) tab.1,
        if_neg (by simp [not_break_of_key_char key]), if_neg (by omega), Nat.zero_add]

theorem BlockScan.Holds.cons {lines : List Char} (holds : scan.Holds lines next)
    (someLast : scan.last.isSome = true) (joint : List Char) (content : isBreak c = false) :
    BlockScan.Holds { scan with text := joint ++ c :: scan.text } (joint ++ c :: lines) next where
  joined := by simp [← holds.joined]
  content := by
    intro d last
    cases kept : scan.text with
    | nil =>
        obtain rfl : c = d := by simpa [kept] using last
        exact content
    | cons e text =>
        apply holds.content d
        simpa [kept, List.getLast?_append, List.getLast?_cons_cons, List.getLast?_cons] using last
  breaks := holds.breaks
  lasting := fun _ => someLast
  cursor := holds.cursor

theorem read_block_blank_line {last : Option Char} {trailing : List Char} {blank : Bool}
    (endsLine : isBreak c = true) :
    readBlock? false 4 false last trailing blank 0 (c :: text) =
      readBlock? false 4 false last (c :: trailing) blank 0 text := by
  have visible : c ≠ ' ' ∧ c ≠ '\t' := by
    constructor
    all_goals
      rintro rfl
      exact absurd endsLine (by decide)
  rw [readBlock?, if_neg fun space => visible.1 space.1, if_neg fun tab => visible.2 tab.1,
    if_pos endsLine]

/-- The first character of a line stands after four spaces. -/
theorem read_block_line {last : Option Char} {trailing : List Char} {blank : Bool}
    (content : isBreak c = false) :
    readBlock? false 4 false last trailing blank 0 (bodyIndent ++ c :: text) =
      (readBlock? false 4 true none [] (isBlank c) 5 text).map fun scan =>
        { scan with text := last.toList ++ trailing.reverse ++ c :: scan.text } := by
  rw [show bodyIndent = List.replicate 4 ' ' from rfl, read_block_indentation 4 (by decide),
    readBlock?, if_neg (by simp), if_neg (by simp), if_neg (by simp [content]), if_pos rfl]
  rfl

theorem read_block_cons {blank : Bool} (content : isBreak c = false) :
    readBlock? false 4 true none [] blank column (c :: text) =
      (readBlock? false 4 true none [] blank (column + 1) text).map fun scan =>
        { scan with text := c :: scan.text } := by
  rw [readBlock?, if_neg (by simp [content])]

/-- From the start of a line and from inside one, by induction on the text: each
character is read back where it was written. -/
theorem read_block_written (resumes : Resumes rest next) (outside : next.column < 4)
    (text : List Char) :
    (∀ last trailing blank, (∀ c ∈ last.toList ++ trailing, isBreak c = true) →
      ∃ scan, readBlock? false 4 false last trailing blank 0 (literalBody true text ++ rest) =
          some scan ∧
        scan.Holds (last.toList ++ trailing.reverse ++ closeLine true text) next ∧
          (last.isSome = true → scan.last.isSome = true)) ∧
    ∀ blank column,
      ∃ scan, readBlock? false 4 true none [] blank column (literalBody false text ++ rest) =
          some scan ∧
        scan.Holds (closeLine false text) next ∧ scan.last.isSome = true := by
  induction text with
  | nil =>
      constructor
      · intro last trailing blank breaks
        refine ⟨_, read_block_end resumes outside,
          ⟨by simp [closeLine], by simp, ?_, by simp, rfl⟩, id⟩
        simpa [or_comm] using breaks
      · intro blank column
        refine ⟨_, read_block_end resumes outside, ⟨rfl, by simp, ?_, by simp, rfl⟩, rfl⟩
        intro c member
        obtain rfl : c = '\n' := by simpa using member
        rfl
  | cons c text induction =>
      obtain ⟨fromStart, fromInside⟩ := induction
      by_cases endsLine : isBreak c = true
      · constructor
        · intro last trailing blank breaks
          have more : ∀ d ∈ last.toList ++ c :: trailing, isBreak d = true := by
            intro d member
            rcases List.mem_append.mp member with first | later
            · exact breaks d (List.mem_append_left _ first)
            · rcases List.mem_cons.mp later with rfl | later
              · exact endsLine
              · exact breaks d (List.mem_append_right _ later)
          obtain ⟨scan, read, holds, lasting⟩ := fromStart last (c :: trailing) blank more
          refine ⟨scan, ?_, by simpa [closeLine, endsLine] using holds, lasting⟩
          rw [literalBody, if_pos endsLine, List.cons_append, read_block_blank_line endsLine,
            read]
        · intro blank column
          obtain ⟨scan, read, holds, lasting⟩ :=
            fromStart (some c) [] blank (by simpa using endsLine)
          refine ⟨scan, ?_, by simpa [closeLine, endsLine] using holds, lasting rfl⟩
          rw [literalBody, if_pos endsLine, List.cons_append, readBlock?, if_pos endsLine, read]
      · have content : isBreak c = false := by simpa using endsLine
        constructor
        · intro last trailing blank breaks
          obtain ⟨scan, read, holds, lasting⟩ := fromInside (isBlank c) 5
          have added := holds.cons lasting (last.toList ++ trailing.reverse) content
          refine ⟨{ scan with text := last.toList ++ trailing.reverse ++ c :: scan.text }, ?_,
            by simpa only [closeLine, content] using added, fun _ => lasting⟩
          rw [literalBody, if_neg endsLine, if_pos rfl, List.append_assoc, List.cons_append,
            read_block_line content, read]
          rfl
        · intro blank column
          obtain ⟨scan, read, holds, lasting⟩ := fromInside blank (column + 1)
          refine ⟨{ scan with text := c :: scan.text }, ?_,
            by simpa [closeLine, content] using holds.cons lasting [] content, lasting⟩
          rw [literalBody, if_neg endsLine, if_neg Bool.false_ne_true, List.nil_append,
            List.cons_append, read_block_cons content, read]
          rfl

def chompFor (text : List Char) : Chomp :=
  match text.reverse with
  | [] => .strip
  | [c] => if isBreak c then .keep else .strip
  | c :: d :: _ => if !isBreak c then .strip else if isBreak d then .keep else .clip

def incrementFor (text : List Char) : Option Nat :=
  match text with
  | c :: _ => if isSpace c || isBreak c then some 2 else none
  | [] => none

def chompMark : Chomp → List Char
  | .strip => ['-']
  | .clip => []
  | .keep => ['+']

theorem literal_header_eq (text : List Char) :
    literalHeader text =
      (if (incrementFor text).isSome then ['2'] else []) ++ chompMark (chompFor text) := by
  unfold literalHeader incrementFor chompFor
  congr 1
  · cases text with
    | nil => rfl
    | cons c text =>
        by_cases indented : (isSpace c || isBreak c) = true
        · simp only [if_pos indented, Option.isSome_some, if_true]
        · simp only [if_neg indented, Option.isSome_none, Bool.false_eq_true, if_false]
  · rcases text.reverse with _ | ⟨c, _ | ⟨d, before⟩⟩
    · rfl
    · cases ends : isBreak c with
      | false => simp [ends, chompMark]
      | true => simp [ends, chompMark]
    · cases ends : isBreak c with
      | false => simp [ends, chompMark]
      | true =>
          cases again : isBreak d with
          | false => simp [ends, again, chompMark]
          | true => simp [ends, again, chompMark]

theorem read_header_written (text body : List Char) :
    readHeader (literalHeader text ++ '\n' :: body) =
      (⟨chompFor text, incrementFor text⟩, '\n' :: body) := by
  have increment : incrementFor text = none ∨ incrementFor text = some 2 := by
    unfold incrementFor
    split
    · split
      · exact .inr rfl
      · exact .inl rfl
    · exact .inl rfl
  rw [literal_header_eq]
  rcases increment with given | given
  all_goals
    rw [given]
    cases chompFor text with
    | strip => rfl
    | clip => rfl
    | keep => rfl

/-- Chomping as the header says leaves the text that was written. -/
theorem BlockScan.Holds.chomped (holds : scan.Holds (closeLine true text) next)
    (someText : text ≠ []) :
    scan.chomped (chompFor text) = text := by
  obtain ⟨front, c, rfl⟩ := (List.eq_nil_or_concat text).resolve_left someText
  have joined := holds.joined
  rw [List.concat_eq_append] at joined ⊢
  rw [close_line_concat] at joined
  by_cases endsLine : isBreak c = true
  · rw [if_pos endsLine] at joined
    rcases List.eq_nil_or_concat front with rfl | ⟨front, d, rfl⟩
    · simpa [chompFor, endsLine, BlockScan.chomped] using joined
    · rw [List.concat_eq_append] at joined ⊢
      by_cases again : isBreak d = true
      · simpa [chompFor, endsLine, again, BlockScan.chomped] using joined
      · have content : ∀ e ∈ (front ++ [d]).getLast?, isBreak e = false := by simpa using again
        obtain ⟨same, breaks⟩ := content_unique joined holds.content holds.breaks content
          (by simpa using endsLine)
        have lasting := holds.lasting (by simp [same])
        obtain ⟨last, lastEq⟩ := Option.isSome_iff_exists.mp lasting
        have only : last = c := by
          rw [lastEq] at breaks
          simpa using (List.cons.inj breaks).1
        simp [chompFor, endsLine, again, BlockScan.chomped, same, lastEq, only]
  · have content : ∀ e ∈ (front ++ [c]).getLast?, isBreak e = false := by simpa using endsLine
    rw [if_neg endsLine] at joined
    have regrouped : scan.text ++ (scan.last.toList ++ scan.trailing) =
        (front ++ [c]) ++ ['\n'] := by
      simpa using joined
    obtain ⟨same, -⟩ := content_unique regrouped holds.content holds.breaks content
      (List.all_eq_true.mp (rfl : ['\n'].all isBreak = true))
    have strips : chompFor (front ++ [c]) = .strip := by
      unfold chompFor
      rw [List.reverse_append, List.reverse_singleton, List.singleton_append]
      cases front.reverse with
      | nil => simp [endsLine]
      | cons d before => simp [endsLine]
    rw [strips]
    exact same

/-- Without given indentation it is that of the first line, which has content. -/
theorem read_leading_written (breakFree : isBreak c = false) (space : c ≠ ' ') (tab : c ≠ '\t')
    (body : List Char) :
    readLeading? 0 0 (bodyIndent ++ c :: body) = some (4, [], ⟨4, c :: body⟩) := by
  simp [bodyIndent, readLeading?, breakFree, space, tab]

theorem read_literal_written (resumes : Resumes rest next) (outside : next.column < 4)
    (someText : text ≠ []) (printable : ∀ c ∈ text, isPrintable c = true) :
    readBlockScalar? false 3 (literalHeader text ++ '\n' :: (literalBody true text ++ rest)) =
      some (text, next) := by
  obtain ⟨scan, read, holds, -⟩ :=
    (read_block_written resumes outside text).1 none [] false (by simp)
  have chomped := holds.chomped someText
  have line : ∀ body, endLine? ('\n' :: body) = some body := fun body => rfl
  simp only [readBlockScalar?, read_header_written, line, Option.bind_eq_bind, Option.bind_some]
  obtain ⟨c, front, rfl⟩ := List.exists_cons_of_ne_nil someText
  by_cases indented : (isSpace c || isBreak c) = true
  · simp only [incrementFor, if_pos indented]
    rw [read, Option.bind_some, chomped, holds.cursor]
  · -- The first line has content, so its four spaces are found.
    obtain ⟨space, breakFree⟩ : isSpace c = false ∧ isBreak c = false := by simpa using indented
    have tab : c ≠ '\t' := ne_of_printable (printable c (by simp)) (by decide)
    have firstLine : literalBody true (c :: front) ++ rest =
        bodyIndent ++ c :: (literalBody false front ++ rest) := by
      simp [literalBody, breakFree]
    rw [firstLine, show bodyIndent = List.replicate 4 ' ' from rfl,
      read_block_indentation 4 (by decide)] at read
    simp only [incrementFor, if_neg indented, firstLine,
      read_leading_written breakFree (by simpa [isSpace] using space) tab, Option.bind_some]
    have read : readBlock? false (max 4 (max 3 1)) false none [].reverse false 4
        (c :: (literalBody false front ++ rest)) = some scan := read
    rw [read, Option.bind_some, chomped, holds.cursor]

end LiteralFlow.Yaml
