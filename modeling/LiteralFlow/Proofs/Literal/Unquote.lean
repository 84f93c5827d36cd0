import LiteralFlow.Proofs.Literal.QuotedGrammar
import LiteralFlow.Proofs.Text.Bytes

/-!
Which literals can be decoded, and what they stand for. Text without a pair of
quotes stands for itself, a raw body for itself without carriage returns, and a body
with escapes for what its units spell.
-/

namespace LiteralFlow.Literal

def QuotedUnit.Names : QuotedUnit → Char → Prop
  | char c, named => named = c
  | byte value, named => named.toNat = value.toNat

theorem QuotedUnit.names_iff {unit : QuotedUnit} {c : Char} :
    unit.Names c ↔ unit.toChar = c := by
  cases unit with
  | char own => exact eq_comm
  | byte value =>
      have small := value.toNat_lt
      have valid : value.toNat.isValidChar := .inl (by omega)
      simp only [Names, toChar]
      rw [← scalar_eq_some_iff, scalar?, if_pos valid, Option.some.injEq]

theorem from_utf8_eq_some_iff {bytes : List UInt8} {text : String} :
    String.fromUTF8? bytes.toByteArray = some text ↔
      text.toList.flatMap String.utf8EncodeChar = bytes := by
  have encoded : text.toByteArray = (text.toList.flatMap String.utf8EncodeChar).toByteArray := by
    rw [← List.utf8Encode, ← String.toByteArray_ofList, String.ofList_toList]
  rw [← List.toByteArray_inj, ← encoded, String.fromUTF8?]
  constructor
  · intro decoded
    split at decoded
    · cases decoded
      rfl
    · cases decoded
  · intro same
    have valid : bytes.toByteArray.IsValidUTF8 := same ▸ text.isValidUTF8
    rw [dif_pos valid, Option.some.injEq, ← String.toByteArray_inj]
    exact same.symm

theorem of_mark_eq_some_iff {c : Char} {quote : Quote} :
    Quote.ofMark? c = some quote ↔ c = quote.mark := by
  constructor
  · intro found
    simp only [Quote.ofMark?] at found
    split at found
    · cases found
      assumption
    · split at found
      · cases found
        assumption
      · split at found
        · cases found
          assumption
        · cases found
  · intro same
    rw [same]
    cases quote <;> rfl

theorem split_quotes_enclosed (quote : Quote) (body : List Char) :
    splitQuotes? (quote.mark :: body ++ [quote.mark]) = some (quote, body) := by
  have known : Quote.ofMark? quote.mark = some quote := of_mark_eq_some_iff.mpr rfl
  cases body with
  | nil => simp [splitQuotes?, known]
  | cons c body =>
      have last : (c :: (body ++ [quote.mark])).getLast? = some quote.mark := by
        rw [← List.cons_append, List.getLast?_concat]
      have front : (c :: (body ++ [quote.mark])).dropLast = c :: body := by
        rw [← List.cons_append, List.dropLast_concat]
      simp only [List.cons_append, splitQuotes?, known, last, front, Option.bind_eq_bind,
        Option.bind_some, if_true]

theorem split_quotes_bare {literal : List Char}
    (bare : Text.byteLength literal < 2 ∨
      ¬ ∃ quote : Quote, literal.head? = some quote.mark ∧ literal.getLast? = some quote.mark) :
    splitQuotes? literal = none := by
  unfold splitQuotes?
  split
  · rename_i first second rest
    cases known : Quote.ofMark? first with
    | none => rfl
    | some quote =>
        have opens := of_mark_eq_some_iff.mp known
        apply if_neg
        intro closes
        rcases bare with short | unclosed
        · have positive := first.utf8Size_pos
          have positive' := second.utf8Size_pos
          simp only [Text.byteLength] at short
          omega
        · rw [opens] at closes
          exact unclosed ⟨quote, by rw [opens]; rfl, by rw [List.getLast?_cons_cons, closes]⟩
  · rfl

variable {literal : String} {body : List Char} {text : String}

theorem decode_units_eq_ok_iff {quote : Quote} {units : List QuotedUnit} :
    decodeUnits literal quote body = .ok units ↔ readUnits quote.mark body = .ok units := by
  simp only [decodeUnits]
  split
  all_goals
    rename_i read
    simp [read]

theorem unquote_raw_iff (raw : literal.toList = Quote.back.mark :: body ++ [Quote.back.mark]) :
    unquote literal = .ok text ↔
      Quote.back.mark ∉ body ∧ text.toList = body.filter (· ≠ '\r') := by
  simp only [unquote, raw, split_quotes_enclosed]
  split
  · rename_i inside
    simp [inside]
  · rename_i outside
    simp only [outside, Except.ok.injEq, not_false_eq_true, true_and]
    rw [← String.toList_inj, String.toList_ofList]
    exact eq_comm

theorem unquote_double_iff
    (double : literal.toList = Quote.double.mark :: body ++ [Quote.double.mark]) :
    unquote literal = .ok text ↔
      ∃ parts, Divides Quote.double.mark body parts ∧
        text.toList.flatMap String.utf8EncodeChar =
          (parts.map Prod.snd).flatMap QuotedUnit.bytes := by
  have decoded : unquote literal = .ok text ↔
      ∃ units, decodeUnits literal .double body = .ok units ∧
        String.fromUTF8? (units.flatMap QuotedUnit.bytes).toByteArray = some text := by
    simp only [unquote, double, split_quotes_enclosed]
    cases read : decodeUnits literal .double body with
    | error fault => simp [bind, Except.bind]
    | ok units =>
        simp only [bind, Except.bind, Except.ok.injEq, exists_eq_left']
        split
        all_goals
          rename_i valid
          simp [valid]
  simp only [decoded, decode_units_eq_ok_iff, read_units_eq_ok_iff (.inl rfl),
    from_utf8_eq_some_iff]
  constructor
  · intro found
    rcases found with ⟨_, ⟨parts, divided, rfl⟩, encoded⟩
    exact ⟨parts, divided, encoded⟩
  · intro division
    rcases division with ⟨parts, divided, encoded⟩
    exact ⟨_, ⟨parts, divided, rfl⟩, encoded⟩

/-- A body with one unit is a spelling of it. -/
theorem read_units_single_iff {quote : Char} (mark : IsEscapingMark quote) {unit : QuotedUnit} :
    readUnits quote body = .ok [unit] ↔ Spells quote body unit := by
  rw [read_units_eq_ok_iff mark]
  constructor
  · intro division
    rcases division with ⟨parts, divided, one⟩
    obtain ⟨part, rfl, rfl⟩ := List.map_eq_singleton_iff.mp one
    obtain ⟨tail, rfl, spelled, rest⟩ := divided.head
    rwa [← rest.joined, List.flatMap_nil, List.append_nil]
  · intro spelled
    have divided := Divides.cons spelled .nil
    rw [List.append_nil] at divided
    exact ⟨_, divided, rfl⟩

theorem unquote_single_iff
    (single : literal.toList = Quote.single.mark :: body ++ [Quote.single.mark]) :
    unquote literal = .ok text ↔
      ∃ unit c, Spells Quote.single.mark body unit ∧ unit.Names c ∧ text.toList = [c] := by
  have decoded : unquote literal = .ok text ↔
      ∃ unit, decodeUnits literal .single body = .ok [unit] ∧ text.toList = [unit.toChar] := by
    simp only [unquote, single, split_quotes_enclosed]
    cases read : decodeUnits literal .single body with
    | error fault => simp [bind, Except.bind]
    | ok units =>
        simp only [bind, Except.bind, Except.ok.injEq]
        split
        · rename_i unit
          simp only [List.cons.injEq, and_true, exists_eq_left', Except.ok.injEq]
          rw [← String.toList_inj, String.toList_ofList]
          exact eq_comm
        · rename_i several
          simp only [reduceCtorEq, false_iff, not_exists, not_and]
          intro unit alone
          exact absurd alone (several unit)
  simp only [decoded, decode_units_eq_ok_iff, read_units_single_iff (.inr rfl),
    QuotedUnit.names_iff, exists_and_left, exists_eq_left']

/-- Decoding accepts exactly the literals of the grammar and gives what they stand
for. Text that no pair of quotes encloses stands for itself. A raw body must not have
its mark inside and loses its carriage returns. A double-quoted body must be divided
into units, which can be done in one way only, and stands for the text whose UTF-8
form is that of the units together. A single-quoted body must be one unit. -/
theorem unquote_exact (literal text : String) (body : List Char) :
    ((Text.byteLength literal.toList < 2 ∨ ¬ ∃ quote : Quote,
        literal.toList.head? = some quote.mark ∧ literal.toList.getLast? = some quote.mark) →
      unquote literal = .ok literal) ∧
    (literal.toList = Quote.back.mark :: body ++ [Quote.back.mark] →
      (unquote literal = .ok text ↔
        Quote.back.mark ∉ body ∧ text.toList = body.filter (· ≠ '\r'))) ∧
    (literal.toList = Quote.double.mark :: body ++ [Quote.double.mark] →
      (unquote literal = .ok text ↔
        ∃ parts, Divides Quote.double.mark body parts ∧
          text.toList.flatMap String.utf8EncodeChar =
            (parts.map Prod.snd).flatMap QuotedUnit.bytes) ∧
      ∀ parts parts', Divides Quote.double.mark body parts →
        Divides Quote.double.mark body parts' → parts = parts') ∧
    (literal.toList = Quote.single.mark :: body ++ [Quote.single.mark] →
      (unquote literal = .ok text ↔
        ∃ unit c, Spells Quote.single.mark body unit ∧ unit.Names c ∧ text.toList = [c])) := by
  refine ⟨?_, unquote_raw_iff, ?_, unquote_single_iff⟩
  · intro bare
    simp only [unquote, split_quotes_bare bare]
  · intro double
    refine ⟨unquote_double_iff double, ?_⟩
    intro parts parts' divided divided'
    exact divided.unique (.inl rfl) divided'

/-- The two bytes of one character, the first in hexadecimal and the second in octal
digits, are text together, and the first alone is a character between single quotes. -/
theorem escaped_bytes_unquoted :
    unquote "\"\\xc3\\251\"" = .ok "é" ∧ unquote "'\\xC3'" = .ok "Ã" := by
  have hexadecimal : Text.IsNumeral 16 ['c', '3'] 0xc3 :=
    ⟨[12, 3], .cons (by simp [Text.IsDigit]) (.cons (by simp [Text.IsDigit]) .nil), by decide⟩
  have capital : Text.IsNumeral 16 ['C', '3'] 0xc3 :=
    ⟨[12, 3], .cons ⟨by decide, .inr (by decide)⟩ (.cons (by simp [Text.IsDigit]) .nil), by decide⟩
  have octal : Text.IsNumeral 8 ['2', '5', '1'] 0xa9 :=
    ⟨[2, 5, 1], by simp [Text.IsDigit], by decide⟩
  have divided : Divides Quote.double.mark ['\\', 'x', 'c', '3', '\\', '2', '5', '1']
      [(['\\', 'x', 'c', '3'], .byte 0xc3), (['\\', '2', '5', '1'], .byte 0xa9)] :=
    ⟨rfl, List.forall_mem_cons.mpr
      ⟨.hexadecimal rfl hexadecimal, List.forall_mem_singleton.mpr (.octal rfl octal)⟩⟩
  constructor
  · exact ((unquote_exact _ _ _).2.2.1 (by decide)).1.mpr ⟨_, divided, by decide⟩
  · exact ((unquote_exact _ _ _).2.2.2 (by decide)).mpr
      ⟨.byte 0xc3, 'Ã', .hexadecimal rfl capital, rfl, by decide⟩

end LiteralFlow.Literal
