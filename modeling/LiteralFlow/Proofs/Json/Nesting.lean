import LiteralFlow.Json.Decode
import LiteralFlow.Proofs.Json.Scalar

/-!
How deep a document is nested, and how records and arrays are taken apart when
they fit the room that is left. Numbers that fit a word are finite, so they can
be kept for later.
-/

namespace LiteralFlow

namespace Binary

theorem round_le (n : Nat) : round n ≤ 2 * n := by
  by_cases zero : n = 0
  · subst zero
    decide
  · let unit := Nat.pow 2 (n.log2 - 52)
    have least : unit ≤ n :=
      Nat.le_trans (Nat.pow_le_pow_right (by decide) (Nat.sub_le _ _)) (Nat.log2_self_le zero)
    have multiple : n / unit * unit ≤ n := Nat.div_mul_le_self n unit
    have next : (n / unit + 1) * unit = n / unit * unit + unit := Nat.succ_mul _ _
    simp only [round]
    split
    · change (n / unit + 1) * unit ≤ 2 * n
      omega
    · change n / unit * unit ≤ 2 * n
      omega

theorem lt_overflow {n : Nat} (small : n < Nat.pow 2 66) : n < overflow := by
  unfold overflow
  generalize limit : 1024 = exponent
  exact Nat.lt_of_lt_of_le small (Nat.pow_le_pow_right (by decide) (by omega))

end Binary

namespace JsonNumber

theorem le_of_digit_chars (digits : List Char) (value : Nat) :
    value ≤ Nat.ofDigitChars 10 digits value := by
  induction digits generalizing value with
  | nil => simp
  | cons c digits induction =>
      rw [Nat.ofDigitChars_cons]
      have later := induction (10 * value + (c.toNat - '0'.toNat))
      omega

/-- Digits fit the word one after the other when they fit as a whole. -/
theorem continue_word_of_digits {digits : List Char} {value : Nat}
    (digit : ∀ c ∈ digits, c.isDigit = true)
    (small : Nat.ofDigitChars 10 digits value < wordLimit) :
    continueWord value digits = (Nat.ofDigitChars 10 digits value, []) := by
  induction digits generalizing value with
  | nil => simp [continueWord]
  | cons c digits induction =>
      rw [Nat.ofDigitChars_cons] at small ⊢
      have fits := Nat.lt_of_le_of_lt (le_of_digit_chars digits _) small
      simp only [continueWord, Text.digit_value_of_is_digit (digit c (by simp)), Option.getD_some,
        if_pos fits]
      exact induction (fun other member => digit other (by simp [member])) small

theorem scaled_of_nat {n : Nat} (small : n < wordLimit) : (ofNat n).scaled = (n, 0) := by
  have whole : continueWord 0 (Nat.toDigits 10 n) = (n, []) := by
    have value : Nat.ofDigitChars 10 (Nat.toDigits 10 n) 0 = n := Nat.ofDigitChars_ten_toDigits
    rw [continue_word_of_digits Text.digits_of_nat (by rwa [value]), value]
  simp [scaled, ofNat, whole, continueWord]

theorem is_finite_of_nat {n : Nat} (small : n < wordLimit) : (ofNat n).isFinite = true := by
  have finite : Binary.isFiniteProduct n (Nat.pow 10 0) = true := by
    have one : Binary.round (Nat.pow 10 0) = 1 := by decide
    have first := Binary.round_le n
    have second := Binary.round_le (Binary.round n)
    have size : wordLimit * 4 = Nat.pow 2 66 := by decide
    rw [Binary.isFiniteProduct, one, Nat.mul_one]
    exact decide_eq_true (Binary.lt_overflow (by omega))
  rw [isFinite, scaled_of_nat small]
  split
  · rfl
  · rfl
  · rename_i same
    obtain ⟨rfl, zero⟩ := Prod.mk.inj same
    cases zero
    rw [finite]
    rfl

end JsonNumber

namespace Json

mutual

def nesting : Json → Nat
  | null => 0
  | bool _ => 0
  | number _ => 0
  | string _ => 0
  | array items => itemsNesting items + 1
  | object members => membersNesting members + 1

def itemsNesting : List Json → Nat
  | [] => 0
  | item :: items => max item.nesting (itemsNesting items)

def membersNesting : List (Option String × Json) → Nat
  | [] => 0
  | (_, value) :: members => max value.nesting (membersNesting members)

end

theorem items_nesting_le_iff {items : List Json} {room : Nat} :
    itemsNesting items ≤ room ↔ ∀ item ∈ items, item.nesting ≤ room := by
  induction items with
  | nil => simp [itemsNesting]
  | cons item items induction =>
      simp only [itemsNesting, Nat.max_le, induction, List.forall_mem_cons]

theorem members_nesting_le_iff {members : List (Option String × Json)} {room : Nat} :
    membersNesting members ≤ room ↔ ∀ member ∈ members, member.2.nesting ≤ room := by
  induction members with
  | nil => simp [membersNesting]
  | cons member members induction =>
      obtain ⟨key, value⟩ := member
      simp only [membersNesting, Nat.max_le, induction, List.forall_mem_cons]

/-- An array that fits takes one level, and its items fit what is left. -/
theorem array_room {items : List Json} {room : Nat} (fits : (array items).nesting ≤ room) :
    ∃ inner, room = inner + 1 ∧ ∀ item ∈ items, item.nesting ≤ inner := by
  rw [nesting] at fits
  cases room with
  | zero => omega
  | succ inner =>
      exact ⟨inner, rfl, items_nesting_le_iff.mp (Nat.le_of_succ_le_succ fits)⟩

/-- A record that fits takes one level, and its members fit what is left. -/
theorem record_room {members : List (String × Json)} {room : Nat}
    (fits : (record members).nesting ≤ room) :
    ∃ inner, room = inner + 1 ∧ ∀ member ∈ members, member.2.nesting ≤ inner := by
  rw [record, nesting] at fits
  cases room with
  | zero => omega
  | succ inner =>
      have each := members_nesting_le_iff.mp (Nat.le_of_succ_le_succ fits)
      exact ⟨inner, rfl, fun member found =>
        each (some member.1, member.2) (List.mem_map_of_mem found)⟩

theorem fields_record (members : List (String × Json)) :
    fields? (members.map fun (key, value) => (some key, value)) = some members := by
  induction members with
  | nil => rfl
  | cons member members induction =>
      rw [fields?] at induction ⊢
      rw [List.map_cons, List.mapM_cons, induction]
      rfl

@[simp] theorem record_fields_record (keys : List String) (members : List (String × Json)) :
    recordFields? keys (record members) = some members :=
  fields_record members

@[simp] theorem object_fields_record (members : List (String × Json)) :
    objectFields? (record members) = some members :=
  fields_record members

theorem map_decode_encode {α : Type} {encode : α → Json} {decode : Json → Option α}
    {values : List α} (each : ∀ value ∈ values, decode (encode value) = some value) :
    (values.map encode).mapM decode = some values := by
  induction values with
  | nil => rfl
  | cons value values induction =>
      have others := induction fun other member => each other (by simp [member])
      rw [List.map_cons, List.mapM_cons, each value (by simp), others]
      rfl

theorem list_decode_encode {α : Type} {encode : α → Json} {decode : Nat → Json → Option α}
    {values : List α} {room : Nat} (fits : (array (values.map encode)).nesting ≤ room)
    (each : ∀ value ∈ values, ∀ inner, (encode value).nesting ≤ inner →
      decode inner (encode value) = some value) :
    list? decode room (array (values.map encode)) = some values := by
  obtain ⟨inner, rfl, shallow⟩ := array_room fits
  rw [list?]
  exact map_decode_encode fun value member =>
    each value member inner (shallow _ (List.mem_map_of_mem member))

@[simp] theorem text_of_text (value : String) : text? (text value) = some value := rfl

theorem nullable_of_present {α : Type} {decode : Json → Option α} {json : Json} {value : α}
    (present : json ≠ null) (decoded : decode json = some value) :
    nullable? decode json = some (some value) := by
  rw [nullable?]
  · rw [decoded]
    rfl
  · exact present

/-- A value is told from none when its written form is not `null`. -/
theorem nullable_decode_encode {α : Type} {encode : α → Json} {decode : Json → Option α}
    {value : Option α} (present : ∀ inner, encode inner ≠ null)
    (each : ∀ inner ∈ value, decode (encode inner) = some inner) :
    nullable? decode (ofOption encode value) = some value := by
  cases value with
  | none => rfl
  | some inner => exact nullable_of_present (present inner) (each inner rfl)

@[simp] theorem nullable_text (value : Option String) :
    nullable? text? (ofOption text value) = some value := by
  apply nullable_decode_encode
  · intro inner same
    cases same
  · intro inner _
    rfl

theorem nat_below_nat {n limit : Nat} (small : n < limit) :
    natBelow? limit (nat n) = some n := by
  simp [natBelow?, nat, JsonNumber.nat?, JsonNumber.ofNat, small]

end Json

end LiteralFlow
