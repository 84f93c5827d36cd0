import LiteralFlow.Text.Bytes

/-!
Cuts by byte offsets are the divisions of a text into parts of the right
lengths, so an offset inside a character has none.
-/

namespace LiteralFlow.Text

/-- Only the empty text takes no bytes. -/
theorem byte_length_eq_zero_iff {text : List Char} : byteLength text = 0 ↔ text = [] := by
  cases text with
  | nil => simp [byteLength]
  | cons c text =>
      have positive := c.utf8Size_pos
      simp only [byteLength, reduceCtorEq, iff_false]
      omega

theorem byte_length_append (before after : List Char) :
    byteLength (before ++ after) = byteLength before + byteLength after := by
  induction before with
  | nil => simp [byteLength]
  | cons c before induction =>
      rw [List.cons_append, byteLength, byteLength, induction, Nat.add_assoc]

theorem byte_length_to_list (text : String) : byteLength text.toList = text.utf8ByteSize := by
  have ofList (characters : List Char) :
      (String.ofList characters).utf8ByteSize = byteLength characters := by
    induction characters with
    | nil => rfl
    | cons c characters induction =>
        rw [String.ofList_cons, String.utf8ByteSize_append, String.utf8ByteSize_singleton,
          induction, byteLength]
  rw [← ofList, String.ofList_toList]

/-- An offset divides no character exactly when it is the length of what stands before it. -/
theorem boundary_iff {text : List Char} {offset : Nat} :
    (String.Pos.Raw.mk offset).IsValid (String.ofList text) ↔
      ∃ front back, text = front ++ back ∧ byteLength front = offset := by
  rw [String.Pos.Raw.isValid_iff_exists_append]
  constructor
  · intro divided
    rcases divided with ⟨front, back, joined, position⟩
    refine ⟨front.toList, back.toList, ?_, ?_⟩
    · rw [← String.toList_append, ← joined, String.toList_ofList]
    · rw [byte_length_to_list]
      exact (congrArg String.Pos.Raw.byteIdx position).symm
  · intro divided
    rcases divided with ⟨front, back, rfl, rfl⟩
    refine ⟨String.ofList front, String.ofList back, String.ofList_append, ?_⟩
    have length := byte_length_to_list (String.ofList front)
    rw [String.toList_ofList] at length
    rw [length]
    rfl

theorem split_bytes_eq_some_iff {text before after : List Char} {offset : Nat} :
    splitBytes? text offset = some (before, after) ↔
      text = before ++ after ∧ byteLength before = offset := by
  induction text, offset using splitBytes?.induct generalizing before with
  | case1 text =>
      simp only [splitBytes?, Option.some.injEq, Prod.mk.injEq, byte_length_eq_zero_iff]
      constructor
      · intro parts
        rcases parts with ⟨rfl, rfl⟩
        exact ⟨rfl, rfl⟩
      · intro parts
        rcases parts with ⟨rfl, rfl⟩
        exact ⟨rfl, rfl⟩
  | case2 offset =>
      simp only [splitBytes?, reduceCtorEq, false_iff, List.nil_eq_append_iff]
      intro parts
      rcases parts with ⟨⟨rfl, -⟩, length⟩
      simp [byteLength] at length
  | case3 c text offset fits induction =>
      simp only [splitBytes?, if_pos fits, Option.bind_eq_bind, Option.bind_eq_some_iff,
        Prod.exists]
      constructor
      · intro found
        rcases found with ⟨front, back, split, same⟩
        cases same
        obtain ⟨rfl, length⟩ := induction.mp split
        refine ⟨rfl, ?_⟩
        rw [byteLength]
        omega
      · intro parts
        rcases parts with ⟨joined, length⟩
        cases before with
        | nil => simp [byteLength] at length
        | cons first front =>
            obtain ⟨rfl, rest⟩ := List.cons.inj joined
            rw [byteLength] at length
            exact ⟨front, after, induction.mpr ⟨rest, by omega⟩, rfl⟩
  | case4 c text offset tooWide =>
      simp only [splitBytes?, if_neg tooWide, reduceCtorEq, false_iff]
      intro parts
      rcases parts with ⟨joined, length⟩
      cases before with
      | nil => simp [byteLength] at length
      | cons first front =>
          obtain ⟨rfl, rest⟩ := List.cons.inj joined
          rw [byteLength] at length
          omega

theorem slice_bytes_eq_some_iff {text part : List Char} {low high : Nat} :
    sliceBytes? text low high = some part ↔
      ∃ before after, text = before ++ part ++ after ∧
        byteLength before = low ∧ byteLength (before ++ part) = high := by
  simp only [sliceBytes?, Option.bind_eq_bind, Option.bind_eq_some_iff, Prod.exists,
    split_bytes_eq_some_iff]
  constructor
  · intro found
    rcases found with ⟨front, after, ⟨rfl, highLength⟩, before, middle, ⟨rfl, lowLength⟩, same⟩
    cases same
    exact ⟨before, after, rfl, lowLength, highLength⟩
  · intro parts
    rcases parts with ⟨before, after, rfl, lowLength, highLength⟩
    exact ⟨before ++ part, after, ⟨rfl, highLength⟩, before, part, ⟨rfl, lowLength⟩, rfl⟩

end LiteralFlow.Text
