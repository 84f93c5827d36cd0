import LiteralFlow.Proofs.Text.Bytes
import Mathlib.Data.List.Infix

/-!
Computations that take parts of texts between byte offsets. A part exists when both
offsets are boundaries between characters. Where a part has to exist and does not, a
scan is broken off and has no result at all.
-/

namespace LiteralFlow.Text

/-- The bytes of a text from the offset `low` on, up to the offset `high`. -/
structure Extent where
  text : List Char
  low : Nat
  high : Nat
deriving DecidableEq

namespace Extent

def part? (extent : Extent) : Option (List Char) := sliceBytes? extent.text extent.low extent.high

/-- The offsets are in order and inside the text, and neither divides a character. -/
structure OnBoundaries (extent : Extent) : Prop where
  ordered : extent.low ≤ extent.high
  inside : extent.high ≤ byteLength extent.text
  starts : (String.Pos.Raw.mk extent.low).IsValid (String.ofList extent.text)
  ends : (String.Pos.Raw.mk extent.high).IsValid (String.ofList extent.text)

variable {extent : Extent} {part : List Char}

/-- A part exists exactly between boundaries. -/
theorem on_boundaries_iff : extent.OnBoundaries ↔ ∃ part, extent.part? = some part := by
  constructor
  · intro boundaries
    obtain ⟨front, rest, divided, low⟩ := boundary_iff.mp boundaries.starts
    obtain ⟨front', rest', divided', high⟩ := boundary_iff.mp boundaries.ends
    have ordered := boundaries.ordered
    -- Both offsets cut the same text, so the shorter front starts the longer one.
    rcases List.prefix_or_prefix_of_prefix ⟨rest, divided.symm⟩ ⟨rest', divided'.symm⟩ with
      ⟨part, rfl⟩ | ⟨extra, rfl⟩
    · exact ⟨part, slice_bytes_eq_some_iff.mpr ⟨front, rest', divided', low, high⟩⟩
    · rw [byte_length_append] at low
      obtain rfl : extra = [] := byte_length_eq_zero_iff.mp (by omega)
      refine ⟨[], slice_bytes_eq_some_iff.mpr ⟨front', rest', ?_, by omega, ?_⟩⟩
      · rw [List.append_nil, ← divided']
      · rw [List.append_nil, high]
  · intro taken
    rcases taken with ⟨part, found⟩
    obtain ⟨before, after, joined, low, high⟩ := slice_bytes_eq_some_iff.mp found
    have longer := byte_length_append before part
    have whole := byte_length_append (before ++ part) after
    rw [← joined] at whole
    exact {
      ordered := by omega
      inside := by omega
      starts := boundary_iff.mpr ⟨before, part ++ after, by rw [joined, List.append_assoc], low⟩
      ends := boundary_iff.mpr ⟨before ++ part, after, joined, high⟩ }

/-- What follows the first characters of a text. -/
theorem part_behind (front back : List Char) :
    part? ⟨front ++ back, byteLength front, byteLength (front ++ back)⟩ = some back :=
  slice_bytes_eq_some_iff.mpr ⟨front, [], (List.append_nil _).symm, rfl, rfl⟩

theorem part_before_iff {text : List Char} {width : Nat} :
    part? ⟨text, 0, width⟩ = some part ↔ part <+: text ∧ byteLength part = width := by
  rw [part?, slice_bytes_eq_some_iff]
  constructor
  · intro found
    rcases found with ⟨before, after, joined, empty, length⟩
    obtain rfl := byte_length_eq_zero_iff.mp empty
    exact ⟨⟨after, joined.symm⟩, length⟩
  · intro starts
    rcases starts with ⟨⟨after, joined⟩, length⟩
    exact ⟨[], after, joined.symm, rfl, length⟩

end Extent

/-- A computation with the parts that it takes, in their order. It has no result if a part
that has to exist does not. -/
structure Scan (α : Type) where
  result : Option α
  taken : List Extent

namespace Scan

variable {α β : Type}

instance : Monad Scan where
  pure value := ⟨some value, []⟩
  bind scan next :=
    match scan.result with
    | none => ⟨none, scan.taken⟩
    | some value => ⟨(next value).result, scan.taken ++ (next value).taken⟩

def take (extent : Extent) : Scan (List Char) := ⟨extent.part?, [extent]⟩

def tryTake (extent : Extent) : Scan (Option (List Char)) :=
  ⟨some extent.part?, (extent.part?.map fun _ => extent).toList⟩

/-- The computation ends with `result`, and all parts that it takes lie between boundaries
of texts inside `source`. -/
structure Returns (scan : Scan α) (source : List Char) (result : α) : Prop where
  ends : scan.result = some result
  safe : ∀ extent ∈ scan.taken, extent.OnBoundaries ∧ extent.text <:+: source

namespace Returns

variable {scan : Scan α} {next : α → Scan β} {source source' : List Char} {value : α} {result : β}
  {extent : Extent} {part : List Char}

theorem pure (source : List Char) (value : α) : (Pure.pure value : Scan α).Returns source value :=
  ⟨rfl, by intro extent member; cases member⟩

theorem bind (first : scan.Returns source value) (second : (next value).Returns source result) :
    (scan >>= next).Returns source result := by
  have both : scan >>= next = ⟨(next value).result, scan.taken ++ (next value).taken⟩ := by
    simp only [Bind.bind, first.ends]
  rw [both]
  refine ⟨second.ends, ?_⟩
  intro extent member
  rcases List.mem_append.mp member with before | after
  · exact first.safe extent before
  · exact second.safe extent after

theorem take (found : extent.part? = some part) (inside : extent.text <:+: source) :
    (Scan.take extent).Returns source part := by
  refine ⟨found, ?_⟩
  intro other member
  rw [List.mem_singleton.mp member]
  exact ⟨Extent.on_boundaries_iff.mpr ⟨part, found⟩, inside⟩

theorem try_take (inside : extent.text <:+: source) :
    (Scan.tryTake extent).Returns source extent.part? := by
  refine ⟨rfl, ?_⟩
  intro other member
  simp only [Scan.tryTake, Option.mem_toList, Option.map_eq_some_iff] at member
  obtain ⟨part, found, rfl⟩ := member
  exact ⟨Extent.on_boundaries_iff.mpr ⟨part, found⟩, inside⟩

theorem within (returns : scan.Returns source value) (inside : source <:+: source') :
    scan.Returns source' value :=
  ⟨returns.ends, fun extent member =>
    ⟨(returns.safe extent member).1, (returns.safe extent member).2.trans inside⟩⟩

end Returns

end Scan

end LiteralFlow.Text
