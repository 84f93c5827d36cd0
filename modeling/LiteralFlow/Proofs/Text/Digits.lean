import LiteralFlow.Text.Digits
import Mathlib.Data.List.Forall2
import Mathlib.Data.Nat.Digits.Defs

/-!
Numerals in the radices up to sixteen. A numeral is read exactly when each of its
characters is a digit, in either case, and its value is the positional one. The
decimal digits of a number are read back as the number.
-/

namespace LiteralFlow.Text

/-- A character stands for `value` in a radix of at most sixteen. -/
def IsDigit (radix : Nat) (c : Char) (value : Nat) : Prop :=
  value < radix ∧ (c = Nat.digitChar value ∨ c = (Nat.digitChar value).toUpper)

/-- Digits whose positional value is `value`, the first digit being the highest. -/
def IsNumeral (radix : Nat) (text : List Char) (value : Nat) : Prop :=
  ∃ digits, List.Forall₂ (IsDigit radix) text digits ∧
    Nat.ofDigits radix digits.reverse = value

variable {radix value start : Nat} {c : Char} {text tail : List Char}

/-- The digits of a radix are those of sixteen that are below it. -/
theorem digit_value_below (small : radix ≤ 16) :
    digitValue? radix c = some value ↔ digitValue? 16 c = some value ∧ value < radix := by
  simp only [digitValue?]
  split
  all_goals grind

/-- The characters from a code on stand for the values from `low` on. -/
theorem digit_of_code (offset low high : Nat)
    (spelled : ∀ value < high, low ≤ value → IsDigit 16 (Char.ofNat (offset + value)) value)
    (code : offset + value = c.toNat) (lower : low ≤ value) (upper : value < high) :
    IsDigit 16 c value := by
  have digit := spelled value upper lower
  rwa [code, Char.ofNat_toNat] at digit

theorem hex_digit_value_iff : digitValue? 16 c = some value ↔ IsDigit 16 c value := by
  constructor
  · intro read
    simp only [digitValue?, Option.ite_none_right_eq_some, Option.some.injEq] at read
    obtain ⟨small, rfl⟩ := read
    -- The three runs of digits start at the codes 48, 97 and 65.
    have zero : '0'.toNat = 48 := rfl
    have letter : 'a'.toNat = 97 := rfl
    have capital : 'A'.toNat = 65 := rfl
    split at small
    · rename_i range
      have lower : 48 ≤ c.toNat := range.1
      have upper : c.toNat ≤ 57 := range.2
      rw [if_pos range]
      exact digit_of_code 48 0 10 (by unfold IsDigit; decide) (by omega) (by omega) (by omega)
    · rename_i notDecimal
      split at small
      · rename_i range
        have lower : 97 ≤ c.toNat := range.1
        rw [if_neg notDecimal, if_pos range]
        exact digit_of_code 87 10 16 (by unfold IsDigit; decide) (by omega) (by omega) (by omega)
      · rename_i notLetter
        split at small
        · rename_i range
          have lower : 65 ≤ c.toNat := range.1
          rw [if_neg notDecimal, if_neg notLetter, if_pos range]
          exact digit_of_code 55 10 16 (by unfold IsDigit; decide) (by omega) (by omega) (by omega)
        · omega
  · intro digit
    rcases digit with ⟨small, rfl | rfl⟩
    · revert value
      decide
    · revert value
      decide

theorem digit_value_eq_some_iff (small : radix ≤ 16) :
    digitValue? radix c = some value ↔ IsDigit radix c value := by
  rw [digit_value_below small, hex_digit_value_iff, IsDigit, IsDigit]
  constructor
  · intro digit
    exact ⟨digit.2, digit.1.2⟩
  · intro digit
    exact ⟨⟨by omega, digit.2⟩, digit.1⟩

/-- One more digit of lower value multiplies what stands before it. -/
theorem of_digits_carry (digits : List Nat) (digit : Nat) :
    Nat.ofDigits radix ((digit :: digits).reverse ++ [start]) =
      Nat.ofDigits radix (digits.reverse ++ [radix * start + digit]) := by
  simp only [List.reverse_cons, List.append_assoc, List.singleton_append, Nat.ofDigits_append,
    Nat.ofDigits_cons, Nat.ofDigits_nil, Nat.mul_zero, Nat.add_zero, Nat.add_comm digit]

theorem continue_numeral_eq_some_iff (small : radix ≤ 16) :
    continueNumeral? radix start text = some value ↔
      ∃ digits, List.Forall₂ (IsDigit radix) text digits ∧
        Nat.ofDigits radix (digits.reverse ++ [start]) = value := by
  induction text generalizing start with
  | nil => simp [continueNumeral?]
  | cons c text induction =>
      simp only [continueNumeral?, Option.bind_eq_bind, Option.bind_eq_some_iff,
        digit_value_eq_some_iff small, induction, List.forall₂_cons_left_iff]
      constructor
      · intro read
        rcases read with ⟨digit, isDigit, digits, each, same⟩
        exact ⟨digit :: digits, ⟨digit, digits, isDigit, each, rfl⟩,
          (of_digits_carry digits digit).trans same⟩
      · intro numeral
        rcases numeral with ⟨_, ⟨digit, digits, isDigit, each, rfl⟩, same⟩
        exact ⟨digit, isDigit, digits, each, (of_digits_carry digits digit).symm.trans same⟩

theorem numeral_value_iff (small : radix ≤ 16) :
    continueNumeral? radix 0 text = some value ↔ IsNumeral radix text value := by
  simp only [continue_numeral_eq_some_iff small, IsNumeral, Nat.ofDigits_append,
    Nat.ofDigits_singleton, Nat.mul_zero, Nat.add_zero]

theorem numeral_head (numeral : IsNumeral radix (c :: text) value) :
    ∃ digit, IsDigit radix c digit := by
  obtain ⟨_, each, -⟩ := numeral
  obtain ⟨digit, _, isDigit, -⟩ := List.forall₂_cons_left_iff.mp each
  exact ⟨digit, isDigit⟩

theorem read_numeral_eq_some_iff (small : radix ≤ 16) :
    readNumeral? radix text = some value ↔ text ≠ [] ∧ IsNumeral radix text value := by
  cases text with
  | nil => simp [readNumeral?]
  | cons c text =>
      rw [readNumeral?, numeral_value_iff small]
      exact (and_iff_right (List.cons_ne_nil c text)).symm

/-- A numeral is below the power of its radix that its length gives. -/
theorem numeral_lt (large : 1 < radix) (numeral : IsNumeral radix text value) :
    value < Nat.pow radix text.length := by
  obtain ⟨digits, each, rfl⟩ := numeral
  rw [each.length_eq, ← List.length_reverse]
  apply Nat.ofDigits_lt_base_pow_length large
  intro digit member
  rw [List.mem_reverse] at member
  induction each with
  | nil => cases member
  | cons isDigit _ induction =>
      rcases List.mem_cons.mp member with rfl | later
      · exact isDigit.1
      · exact induction later

theorem take_numeral_append (small : radix ≤ 16) {digits : List Char}
    (numeral : IsNumeral radix digits value) (tail : List Char) :
    takeNumeral? radix digits.length (digits ++ tail) = some (value, tail) := by
  rw [takeNumeral?, List.take_left, if_pos rfl, List.drop_left,
    (numeral_value_iff small).mpr numeral]
  rfl

theorem eq_of_take_numeral {width : Nat} (small : radix ≤ 16)
    (taken : takeNumeral? radix width text = some (value, tail)) :
    ∃ digits, text = digits ++ tail ∧ digits.length = width ∧ IsNumeral radix digits value := by
  simp only [takeNumeral?] at taken
  split at taken
  · rename_i length
    simp only [Option.map_eq_some_iff, Prod.mk.injEq] at taken
    obtain ⟨_, read, rfl, rfl⟩ := taken
    exact ⟨text.take width, (List.take_append_drop width text).symm, length,
      (numeral_value_iff small).mp read⟩
  · cases taken

theorem digit_value_of_is_digit {c : Char} (digit : c.isDigit = true) :
    digitValue? 10 c = some (c.toNat - '0'.toNat) := by
  have range : '0' ≤ c ∧ c ≤ '9' := by
    simpa [Char.isDigit, Char.le_def] using digit
  have small : c.toNat - '0'.toNat < 10 := by
    have upper : c.toNat ≤ '9'.toNat := range.2
    have nine : '9'.toNat = 57 := rfl
    have zero : '0'.toNat = 48 := rfl
    omega
  simp only [digitValue?, if_pos range, if_pos small]

theorem continue_numeral_of_digits {digits : List Char} {value : Nat}
    (digit : ∀ c ∈ digits, c.isDigit = true) :
    continueNumeral? 10 value digits = some (Nat.ofDigitChars 10 digits value) := by
  induction digits generalizing value with
  | nil => simp [continueNumeral?]
  | cons c digits induction =>
      rw [continueNumeral?, digit_value_of_is_digit (digit c (by simp)), Nat.ofDigitChars_cons]
      exact induction fun other member => digit other (by simp [member])

theorem digits_of_nat {n : Nat} : ∀ c ∈ Nat.toDigits 10 n, c.isDigit = true :=
  fun _ member => Nat.isDigit_of_mem_toDigits (by decide) (by decide) member

theorem read_numeral_to_digits (n : Nat) : readNumeral? 10 (Nat.toDigits 10 n) = some n := by
  cases digits : Nat.toDigits 10 n with
  | nil => exact absurd digits Nat.toDigits_ne_nil
  | cons c rest =>
      rw [readNumeral?, ← digits, continue_numeral_of_digits digits_of_nat,
        Nat.ofDigitChars_ten_toDigits]

/-- A natural number is written with a leading zero only when it is zero. -/
theorem head_to_digits (n : Nat) :
    ¬ ((Nat.toDigits 10 n).head? = some '0' ∧ (Nat.toDigits 10 n).length ≠ 1) := by
  induction n using Nat.strongRecOn with
  | ind n induction =>
      rw [Nat.toDigits_eq_if (by decide)]
      split
      · simp
      · rename_i large
        intro wrong
        have front := induction (n / 10) (by omega)
        have nonempty : Nat.toDigits 10 (n / 10) ≠ [] := Nat.toDigits_ne_nil
        have head : (Nat.toDigits 10 (n / 10)).head? = some '0' := by
          have whole := wrong.1
          cases digits : Nat.toDigits 10 (n / 10) with
          | nil => exact absurd digits nonempty
          | cons c more => simpa [digits] using whole
        have single : (Nat.toDigits 10 (n / 10)).length = 1 := by
          by_cases one : (Nat.toDigits 10 (n / 10)).length = 1
          · exact one
          · exact absurd ⟨head, one⟩ front
        have small : n / 10 < 10 := by
          have bound := (Nat.length_toDigits_le_iff (b := 10) (by decide) (by decide)).mp
            (Nat.le_of_eq single)
          omega
        rw [Nat.toDigits_of_lt_base small] at head
        have zero : n / 10 = 0 := by simpa using head
        omega

end LiteralFlow.Text
