import LiteralFlow.Proofs.Resolve.TextResolution

/-!
A text that is cut in two at an offset and glued together again is the text, or it
has no candidate at all: both halves exist exactly when the offset is a boundary
between characters.
-/

namespace LiteralFlow.Resolve

variable {text part : String} {offset : Int}

/-- An offset in bytes at which no character of the text is divided. -/
def IsBoundary (text : String) (offset : Int) : Prop :=
  0 ≤ offset ∧ offset ≤ text.utf8ByteSize ∧ (String.Pos.Raw.mk offset.toNat).IsValid text

theorem is_boundary_iff :
    IsBoundary text offset ↔
      ∃ front back : String, text = front ++ back ∧ (front.utf8ByteSize : Int) = offset := by
  constructor
  · intro boundary
    obtain ⟨nonnegative, -, valid⟩ := boundary
    obtain ⟨front, back, divided, position⟩ :=
      String.Pos.Raw.isValid_iff_exists_append.mp valid
    have length : offset.toNat = front.utf8ByteSize := congrArg String.Pos.Raw.byteIdx position
    exact ⟨front, back, divided, by omega⟩
  · intro divided
    rcases divided with ⟨front, back, rfl, rfl⟩
    refine ⟨by omega, by rw [String.utf8ByteSize_append]; omega, ?_⟩
    exact String.Pos.Raw.isValid_iff_exists_append.mpr
      ⟨front, back, rfl, congrArg String.Pos.Raw.mk (Int.toNat_natCast _)⟩

/-- The half before an offset. -/
theorem front_eq_some_iff :
    substring? text 0 offset = some part ↔
      ∃ back : String, text = part ++ back ∧ (part.utf8ByteSize : Int) = offset := by
  rw [substring_eq_some_iff]
  constructor
  · intro cut
    rcases cut with ⟨before, after, rfl, low, high⟩
    obtain rfl : before = "" := String.utf8ByteSize_eq_zero_iff.mp (by omega)
    exact ⟨after, by simp, by simpa using high⟩
  · intro divided
    rcases divided with ⟨back, rfl, rfl⟩
    exact ⟨"", back, by simp, rfl, by simp⟩

/-- The half behind an offset. -/
theorem back_eq_some_iff :
    substring? text offset text.utf8ByteSize = some part ↔
      ∃ front : String, text = front ++ part ∧ (front.utf8ByteSize : Int) = offset := by
  rw [substring_eq_some_iff]
  constructor
  · intro cut
    rcases cut with ⟨before, after, rfl, low, high⟩
    have whole : (before ++ part ++ after).utf8ByteSize =
        (before ++ part).utf8ByteSize + after.utf8ByteSize := String.utf8ByteSize_append
    obtain rfl : after = "" := String.utf8ByteSize_eq_zero_iff.mp (by omega)
    exact ⟨before, by simp, low⟩
  · intro divided
    rcases divided with ⟨front, rfl, rfl⟩
    exact ⟨front, "", by simp, rfl, rfl⟩

theorem cuts_single (text : String) (low high : Int) :
    cuts text [low] [high] = (substring? text low high).toList := by
  cases found : substring? text low high with
  | none => simp [cuts, found]
  | some part => simp [cuts, found]

/-- Both halves of a text, glued together. -/
theorem glue_of_boundary (boundary : IsBoundary text offset) :
    concatenate (cuts text [0] [offset]) (cuts text [offset] [(text.utf8ByteSize : Int)]) =
      [text] := by
  obtain ⟨front, back, divided, length⟩ := is_boundary_iff.mp boundary
  have frontFound : substring? text 0 offset = some front :=
    front_eq_some_iff.mpr ⟨back, divided, length⟩
  have backFound : substring? text offset text.utf8ByteSize = some back :=
    back_eq_some_iff.mpr ⟨front, divided, length⟩
  rw [cuts_single, cuts_single, frontFound, backFound]
  exact congrArg (fun whole => [whole]) divided.symm

theorem glue_of_no_boundary (divided : ¬ IsBoundary text offset) (rest : Candidates String) :
    concatenate (cuts text [0] [offset]) rest = [] := by
  have missing : substring? text 0 offset = none := by
    rw [Option.eq_none_iff_forall_ne_some]
    intro front found
    obtain ⟨back, joined, length⟩ := front_eq_some_iff.mp found
    exact divided (is_boundary_iff.mpr ⟨front, back, joined, length⟩)
  rw [cuts_single, missing]
  rfl

theorem length_of_short (short : (text.utf8ByteSize : Int) ≤ Integer.maximum) :
    lengthOf text = text.utf8ByteSize := by
  rw [length_of_eq, wordLength, Int.min_eq_left short]

variable {context : TextContext} {base cut head tail sum : ValueId} {depth bound : Nat}

/-- The candidates of a sum of two slices that share their base and their cut. -/
theorem texts_from_halves
    (isHead : context.lookup.kind? head = some (.slice base none (some cut)))
    (isTail : context.lookup.kind? tail = some (.slice base (some cut) none))
    (isSum : context.lookup.kind? sum = some (.binary .add head tail))
    (short : (text.utf8ByteSize : Int) ≤ Integer.maximum)
    (whole : textsFrom context base (depth + 2) bound = [text])
    (place : resolveFrom context.lookup (boundRules context.lookup base text.utf8ByteSize) cut
      (depth + 2) bound = [offset]) :
    textsFrom context sum depth bound =
      concatenate (cuts text [0] [offset]) (cuts text [offset] [(text.utf8ByteSize : Int)]) := by
  -- A base beyond the bound would have no candidate.
  have within : depth + 2 ≤ bound :=
    (denotes_of_mem_texts_from (whole ▸ List.mem_singleton_self text)).1
  rw [texts_from_concatenation (by omega) isSum, texts_from_slice (by omega) isHead,
    texts_from_slice (by omega) isTail, whole]
  simp only [List.flatMap_cons, List.flatMap_nil, List.append_nil, sliceText, boundCandidates,
    length_of_short short, place]

end LiteralFlow.Resolve

namespace LiteralFlow.TextResolver

open Resolve

/-- Slices of one text up to an offset and from it on add up to the text when the offset
is a boundary of the text, and to no candidate when it is not. -/
theorem glued_halves_resolve (resolver : TextResolver) {base cut head tail sum : ValueId}
    (isHead : resolver.graph.kind? head = some (.slice base none (some cut)))
    (isTail : resolver.graph.kind? tail = some (.slice base (some cut) none))
    (isSum : resolver.graph.kind? sum = some (.binary .add head tail))
    (depth bound : Nat) (text : String) (offset : Int)
    (short : (text.utf8ByteSize : Int) ≤ Integer.maximum)
    (whole : resolver.resolveFrom base (depth + 2) bound = [text])
    (place : Resolve.resolveFrom resolver.graph.node?
      (boundRules resolver.graph.node? base text.utf8ByteSize) cut (depth + 2) bound = [offset]) :
    (IsBoundary text offset → resolver.resolveFrom sum depth bound = [text]) ∧
      (¬ IsBoundary text offset → resolver.resolveFrom sum depth bound = []) := by
  have halves : resolver.resolveFrom sum depth bound =
      concatenate (cuts text [0] [offset]) (cuts text [offset] [(text.utf8ByteSize : Int)]) :=
    texts_from_halves isHead isTail isSum short whole place
  rw [halves]
  exact ⟨glue_of_boundary, fun divided => glue_of_no_boundary divided _⟩

/-- A greeting cut two bytes before its end, and one byte before it, where the last
character takes two. -/
def gluedGreeting : ValueGraph where
  function := "main.greet"
  nodes := #[
    .ofKind "whole" (.const (.string "\"grüß\"")),
    .ofKind "len" (.builtin "len"),
    .ofKind "length" (.call ⟨.direct ⟨1⟩, [⟨0⟩]⟩),
    .ofKind "two" (.const (.int "2")),
    .ofKind "cut" (.binary .sub ⟨2⟩ ⟨3⟩),
    .ofKind "head" (.slice ⟨0⟩ none (some ⟨4⟩)),
    .ofKind "tail" (.slice ⟨0⟩ (some ⟨4⟩) none),
    .ofKind "glued" (.binary .add ⟨5⟩ ⟨6⟩),
    .ofKind "one" (.const (.int "1")),
    .ofKind "badCut" (.binary .sub ⟨2⟩ ⟨8⟩),
    .ofKind "badHead" (.slice ⟨0⟩ none (some ⟨9⟩)),
    .ofKind "badTail" (.slice ⟨0⟩ (some ⟨9⟩) none),
    .ofKind "lost" (.binary .add ⟨10⟩ ⟨11⟩)]

theorem greeting_glued :
    let resolver := TextResolver.ofConfig gluedGreeting .default
    IsBoundary "grüß" 4 ∧ resolver.resolveFrom ⟨7⟩ 4 7 = ["grüß"] ∧
      ¬ IsBoundary "grüß" 5 ∧ resolver.resolveFrom ⟨12⟩ 4 7 = [] := by
  intro resolver
  have boundary : IsBoundary "grüß" 4 := is_boundary_iff.mpr ⟨"grü", "ß", rfl, rfl⟩
  have divided : ¬ IsBoundary "grüß" 5 := fun valid => absurd valid.2.2 (by decide +kernel)
  have whole : resolver.resolveFrom ⟨0⟩ 6 7 = ["grüß"] := by decide +kernel
  have glued := glued_halves_resolve resolver (rfl : resolver.graph.kind? ⟨5⟩ = _)
    (rfl : resolver.graph.kind? ⟨6⟩ = _) (rfl : resolver.graph.kind? ⟨7⟩ = _) 4 7 "grüß" 4
    (by decide) whole (by decide +kernel)
  have lost := glued_halves_resolve resolver (rfl : resolver.graph.kind? ⟨10⟩ = _)
    (rfl : resolver.graph.kind? ⟨11⟩ = _) (rfl : resolver.graph.kind? ⟨12⟩ = _) 4 7 "grüß" 5
    (by decide) whole (by decide +kernel)
  exact ⟨boundary, glued.1 boundary, divided, lost.2 divided⟩

end LiteralFlow.TextResolver
