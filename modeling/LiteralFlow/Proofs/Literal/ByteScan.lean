import LiteralFlow.Proofs.Literal.FirstFault
import LiteralFlow.Proofs.Text.Scan

/-!
Unquoting by byte offsets. Here every part of a literal is taken between two offsets: the
body between the quotes, the digits of an escape and what follows them. Some offsets are
checked when a part is taken, others rest on what was read before. None of them divides a
character, each unit leaves less text than it found, and the result is that of unquoting
character by character.
-/

namespace LiteralFlow.Literal

open Text (Extent Scan)

/-- Why a scan gives no text: a unit is asked for where nothing is left, the units are not at
their end after the steps allowed, or the literal is refused. -/
inductive ScanError where
  | exhausted
  | unfinished
  | refused (error : QuoteError)

def scanQuotes (literal : List Char) : Scan (Option (Quote × List Char)) :=
  match literal with
  | [] => pure none
  | first :: _ =>
      match Quote.ofMark? first with
      | none => pure none
      | some quote =>
          if Text.byteLength literal < 2 ∨ literal.getLast? ≠ some first then pure none
          else do
            let body ← Scan.take ⟨literal, 1, Text.byteLength literal - 1⟩
            pure (some (quote, body))

def scanNumeral (radix width : Nat) (text : List Char) : Scan (Option (Nat × List Char)) := do
  match ← Scan.tryTake ⟨text, 0, width⟩ with
  | none => pure none
  | some digits =>
      match Text.continueNumeral? radix 0 digits with
      | none => pure none
      | some value => do
          let tail ← Scan.take ⟨text, width, Text.byteLength text⟩
          pure (some (value, tail))

def scanEscape (quote : Char) (rest text : List Char) : Scan (Option (QuotedUnit × List Char)) :=
  match text with
  | [] => pure none
  | letter :: tail =>
      match letterEscape? quote letter with
      | some c => pure (some (.char c, tail))
      | none =>
          match letter with
          | 'x' => do
              let numeral ← scanNumeral 16 2 tail
              pure do
                let (value, after) ← numeral
                some (.byte value.toUInt8, after)
          | 'u' => do
              let numeral ← scanNumeral 16 4 tail
              pure do
                let (value, after) ← numeral
                some (.char (← scalar? value), after)
          | 'U' => do
              let numeral ← scanNumeral 16 8 tail
              pure do
                let (value, after) ← numeral
                some (.char (← scalar? value), after)
          | _ =>
              if '0' ≤ letter ∧ letter ≤ '7' then do
                let digits ← Scan.take ⟨rest, 1, Text.byteLength rest⟩
                let numeral ← scanNumeral 8 3 digits
                pure do
                  let (value, after) ← numeral
                  if value ≤ 255 then some (.byte value.toUInt8, after) else none
              else pure none

def scanUnit (literal : String) (quote : Char) (offset : Nat) (rest : List Char) :
    Scan (Except ScanError (QuotedUnit × List Char)) :=
  match rest with
  | [] => pure (.error .exhausted)
  | first :: text =>
      if first = quote ∨ first = '\n' then
        pure (.error (.refused (.unescapedDelimiter literal)))
      else if first = '\\' then do
        match ← scanEscape quote rest text with
        | some step => pure (.ok step)
        | none => pure (.error (.refused (.invalidEscape literal offset)))
      else pure (.ok (.char first, text))

/-- The units of what is left of a body, if `steps` are enough for them. -/
def scanUnits (literal : String) (quote : Char) (body : List Char) :
    Nat → List Char → Scan (Except ScanError (List QuotedUnit))
  | _, [] => pure (.ok [])
  | 0, _ :: _ => pure (.error .unfinished)
  | steps + 1, first :: text => do
      let offset := Text.byteLength body - Text.byteLength (first :: text)
      match ← scanUnit literal quote offset (first :: text) with
      | .error error => pure (.error error)
      | .ok (unit, tail) =>
          match ← scanUnits literal quote body steps tail with
          | .error error => pure (.error error)
          | .ok units => pure (.ok (unit :: units))

/-- The text of a literal. The units of a body get as many steps as it has bytes. -/
def scanLiteral (literal : String) : Scan (Except ScanError String) := do
  match ← scanQuotes literal.toList with
  | none => pure (.ok literal)
  | some (.back, body) =>
      if Quote.back.mark ∈ body then pure (.error (.refused (.unescapedDelimiter literal)))
      else pure (.ok (String.ofList (body.filter (· ≠ '\r'))))
  | some (.double, body) =>
      match ← scanUnits literal Quote.double.mark body (Text.byteLength body) body with
      | .error error => pure (.error error)
      | .ok units =>
          match String.fromUTF8? (units.flatMap QuotedUnit.bytes).toByteArray with
          | some text => pure (.ok text)
          | none => pure (.error (.refused (.invalidUtf8 literal)))
  | some (.single, body) =>
      match ← scanUnits literal Quote.single.mark body (Text.byteLength body) body with
      | .error error => pure (.error error)
      | .ok [unit] => pure (.ok (String.ofList [unit.toChar]))
      | .ok _ => pure (.error (.refused (.characterCount literal)))

theorem mark_size (quote : Quote) : Text.byteLength [quote.mark] = 1 := by
  cases quote <;> rfl

/-- The first and the last byte of an enclosed literal are its quotes. -/
theorem enclosed_part (quote : Quote) (body : List Char) :
    Extent.part? ⟨quote.mark :: body ++ [quote.mark], 1,
      Text.byteLength (quote.mark :: body ++ [quote.mark]) - 1⟩ = some body := by
  have width := mark_size quote
  apply Text.slice_bytes_eq_some_iff.mpr
  refine ⟨[quote.mark], [quote.mark], rfl, width, ?_⟩
  rw [List.singleton_append, Text.byte_length_append (quote.mark :: body), width,
    Nat.add_sub_cancel]

/-- A literal of two bytes or more that ends as it starts is enclosed. -/
theorem enclosed_of_last {first : Char} {rest : List Char} {quote : Quote}
    (opens : first = quote.mark) (long : 2 ≤ Text.byteLength (first :: rest))
    (closes : (first :: rest).getLast? = some first) :
    ∃ body, first :: rest = quote.mark :: body ++ [quote.mark] := by
  subst opens
  rcases List.eq_nil_or_concat rest with rfl | ⟨body, last, rfl⟩
  · rw [mark_size] at long
    omega
  · rw [List.concat_eq_append, ← List.cons_append, List.getLast?_concat,
      Option.some.injEq] at closes
    exact ⟨body, by rw [List.concat_eq_append, closes]; rfl⟩

theorem scan_quotes_returns (literal : List Char) :
    (scanQuotes literal).Returns literal (splitQuotes? literal) := by
  cases literal with
  | nil => exact .pure _ _
  | cons first rest =>
      simp only [scanQuotes]
      split
      · rename_i unknown
        have bare : splitQuotes? (first :: rest) = none := by
          cases rest <;> simp [splitQuotes?, unknown]
        rw [bare]
        exact .pure _ _
      · rename_i quote known
        have opens := of_mark_eq_some_iff.mp known
        split
        · rename_i unclosed
          have bare : splitQuotes? (first :: rest) = none := by
            apply split_quotes_bare
            refine unclosed.imp id ?_
            intro apart enclosed
            rcases enclosed with ⟨other, starts, ends⟩
            exact apart (ends.trans starts.symm)
          rw [bare]
          exact .pure _ _
        · rename_i closed
          simp only [not_or, Nat.not_lt, not_not] at closed
          obtain ⟨body, enclosed⟩ := enclosed_of_last opens closed.1 closed.2
          rw [enclosed, split_quotes_enclosed]
          exact (Scan.Returns.take (enclosed_part quote body) (List.infix_refl _)).bind (.pure _ _)

theorem digit_size {radix value : Nat} {c : Char} (small : radix ≤ 16)
    (digit : Text.IsDigit radix c value) : c.utf8Size = 1 := by
  rcases digit with ⟨below, spelled⟩
  have listed : value < 16 := by omega
  rcases spelled with rfl | rfl
  all_goals
    clear below
    revert value
    decide

/-- Digits take one byte each. -/
theorem numeral_size {radix value : Nat} {digits : List Char} (small : radix ≤ 16)
    (numeral : Text.IsNumeral radix digits value) : Text.byteLength digits = digits.length := by
  obtain ⟨values, each, -⟩ := numeral
  clear value
  induction each with
  | nil => rfl
  | cons digit _ induction =>
      rw [Text.byteLength, induction, digit_size small digit, List.length_cons, Nat.add_comm]

/-- A numeral of the given width is the part of that many bytes. -/
theorem take_numeral_part {radix width value : Nat} {text tail : List Char} (small : radix ≤ 16)
    (taken : Text.takeNumeral? radix width text = some (value, tail)) :
    ∃ digits, Extent.part? ⟨text, 0, width⟩ = some digits ∧
      Text.continueNumeral? radix 0 digits = some value := by
  obtain ⟨digits, joined, length, numeral⟩ := Text.eq_of_take_numeral small taken
  refine ⟨digits, ?_, (Text.numeral_value_iff small).mpr numeral⟩
  exact Extent.part_before_iff.mpr ⟨⟨tail, joined.symm⟩, by rw [numeral_size small numeral, length]⟩

theorem take_numeral_eq_none {radix width : Nat} {text : List Char} (small : radix ≤ 16)
    (unread : ∀ digits, Extent.part? ⟨text, 0, width⟩ = some digits →
      Text.continueNumeral? radix 0 digits = none) : Text.takeNumeral? radix width text = none := by
  rw [Option.eq_none_iff_forall_ne_some]
  intro step taken
  obtain ⟨digits, found, read⟩ := take_numeral_part small taken
  rw [unread digits found] at read
  cases read

theorem scan_numeral_returns {radix width : Nat} {text source : List Char} (small : radix ≤ 16)
    (inside : text <:+: source) :
    (scanNumeral radix width text).Returns source (Text.takeNumeral? radix width text) := by
  apply (Scan.Returns.try_take inside).bind
  cases found : Extent.part? ⟨text, 0, width⟩ with
  | none =>
      rw [take_numeral_eq_none small (by simp [found])]
      exact .pure _ _
  | some digits =>
      cases read : Text.continueNumeral? radix 0 digits with
      | none =>
          rw [take_numeral_eq_none small (by simp [found, read])]
          simp only [read]
          exact .pure _ _
      | some value =>
          obtain ⟨⟨tail, rfl⟩, length⟩ := Extent.part_before_iff.mp found
          have numeral := (Text.numeral_value_iff small).mp read
          have characters : width = digits.length := by rw [← length, numeral_size small numeral]
          have behind := Extent.part_behind digits tail
          have taken := Text.take_numeral_append small numeral tail
          rw [length] at behind
          rw [← characters] at taken
          rw [taken]
          simp only [read]
          exact (Scan.Returns.take behind inside).bind (.pure _ _)

/-- Only an octal digit starts a numeral of them. -/
theorem octal_first {letter : Char} {tail : List Char} {step : Nat × List Char}
    (taken : Text.takeNumeral? 8 3 (letter :: tail) = some step) : '0' ≤ letter ∧ letter ≤ '7' := by
  obtain ⟨digits, joined, length, numeral⟩ := Text.eq_of_take_numeral (by decide) taken
  cases digits with
  | nil => cases length
  | cons first digits =>
      obtain ⟨value, below, spelled⟩ := Text.numeral_head numeral
      rw [(List.cons.inj joined).1]
      clear joined length numeral taken
      rcases spelled with rfl | rfl
      all_goals
        revert value
        decide

theorem escaped_unit_octal {quote letter : Char} {tail : List Char}
    (unlisted : letterEscape? quote letter = none) (notByte : letter ≠ 'x')
    (notShort : letter ≠ 'u') (notLong : letter ≠ 'U') :
    escapedUnit? quote (letter :: tail) = (do
      let (value, after) ← Text.takeNumeral? 8 3 (letter :: tail)
      if value ≤ 255 then some (.byte value.toUInt8, after) else none) := by
  simp only [escapedUnit?, unlisted]

theorem scan_escape_returns (quote : Char) (text : List Char) :
    (scanEscape quote ('\\' :: text) text).Returns ('\\' :: text) (escapedUnit? quote text) := by
  cases text with
  | nil => exact .pure _ _
  | cons letter tail =>
      have behind : tail <:+: '\\' :: letter :: tail :=
        (List.suffix_append ['\\', letter] tail).isInfix
      cases found : letterEscape? quote letter with
      | some c =>
          simp only [scanEscape, escapedUnit?, found]
          exact .pure _ _
      | none =>
          simp only [scanEscape, found]
          split
          · simp only [escapedUnit?, found]
            exact (scan_numeral_returns (by decide) behind).bind (.pure _ _)
          · simp only [escapedUnit?, found]
            exact (scan_numeral_returns (by decide) behind).bind (.pure _ _)
          · simp only [escapedUnit?, found]
            exact (scan_numeral_returns (by decide) behind).bind (.pure _ _)
          · rename_i notByte notShort notLong
            rw [escaped_unit_octal found notByte notShort notLong]
            split
            · have digits : Extent.part? ⟨'\\' :: letter :: tail, 1,
                  Text.byteLength ('\\' :: letter :: tail)⟩ = some (letter :: tail) :=
                Extent.part_behind ['\\'] (letter :: tail)
              refine (Scan.Returns.take digits (List.infix_refl _)).bind ?_
              exact (scan_numeral_returns (by decide) (List.infix_cons (List.infix_refl _))).bind
                (.pure _ _)
            · rename_i notOctal
              have failed : Text.takeNumeral? 8 3 (letter :: tail) = none := by
                rw [Option.eq_none_iff_forall_ne_some]
                intro step taken
                exact notOctal (octal_first taken)
              rw [failed]
              exact .pure _ _

def UnitFault.error (literal : String) (offset : Nat) : UnitFault → QuoteError
  | delimiter => .unescapedDelimiter literal
  | escape => .invalidEscape literal offset

theorem scan_unit_returns (literal : String) (quote : Char) (offset : Nat) (first : Char)
    (text : List Char) :
    (scanUnit literal quote offset (first :: text)).Returns (first :: text)
      ((nextUnit quote first text).mapError fun fault =>
        .refused (fault.error literal offset)) := by
  simp only [scanUnit, nextUnit]
  split
  · exact .pure _ _
  · split
    · rename_i backslash
      subst backslash
      apply (scan_escape_returns quote text).bind
      cases escapedUnit? quote text with
      | none => exact .pure _ _
      | some step => exact .pure _ _
    · exact .pure _ _

/-- A unit takes at least one byte of the text and leaves the rest of it. -/
theorem next_unit_progress {quote first : Char} {text tail : List Char} {unit : QuotedUnit}
    (mark : IsEscapingMark quote) (read : nextUnit quote first text = .ok (unit, tail)) :
    tail <:+ first :: text ∧ Text.byteLength tail < Text.byteLength (first :: text) := by
  obtain ⟨front, joined, spelled⟩ := next_unit_sound mark read
  have taken : Text.byteLength front ≠ 0 := by
    rw [ne_eq, Text.byte_length_eq_zero_iff]
    intro empty
    subst empty
    cases spelled
  rw [joined, Text.byte_length_append]
  exact ⟨List.suffix_append front tail, by omega⟩

/-- As many steps as there are bytes left are enough. -/
theorem scan_units_returns (literal : String) {quote : Char} (mark : IsEscapingMark quote)
    {body : List Char} (steps : Nat) {rest : List Char} (behind : rest <:+ body)
    (enough : Text.byteLength rest ≤ steps) :
    (scanUnits literal quote body steps rest).Returns body
      ((readUnits quote rest).mapError fun fault =>
        .refused (fault.1.error literal (Text.byteLength body - Text.byteLength fault.2))) := by
  induction steps generalizing rest with
  | zero =>
      obtain rfl := Text.byte_length_eq_zero_iff.mp (Nat.le_zero.mp enough)
      rw [readUnits]
      exact .pure _ _
  | succ steps induction =>
      cases rest with
      | nil =>
          rw [readUnits]
          exact .pure _ _
      | cons first text =>
          have unit := (scan_unit_returns literal quote
            (Text.byteLength body - Text.byteLength (first :: text)) first text).within
              behind.isInfix
          cases read : nextUnit quote first text with
          | error fault =>
              rw [read] at unit
              rw [read_units_fault read]
              exact unit.bind (.pure _ _)
          | ok step =>
              rw [read] at unit
              obtain ⟨shorter, less⟩ := next_unit_progress mark read
              have later := induction (shorter.trans behind) (by omega)
              apply unit.bind
              apply later.bind
              cases rest : readUnits quote step.2 with
              | error fault =>
                  rw [read_units_later_fault read rest]
                  exact .pure _ _
              | ok units =>
                  rw [read_units_step read rest]
                  exact .pure _ _

theorem decode_units_eq (literal : String) (quote : Quote) (body : List Char) :
    decodeUnits literal quote body = (readUnits quote.mark body).mapError fun fault =>
      fault.1.error literal (Text.byteLength body - Text.byteLength fault.2) := by
  rw [decodeUnits]
  split
  all_goals
    rename_i read
    rw [read]
    rfl

theorem scan_body_returns (literal : String) (quote : Quote) (body : List Char)
    (escaping : quote ≠ .back) :
    (scanUnits literal quote.mark body (Text.byteLength body) body).Returns body
      ((decodeUnits literal quote body).mapError .refused) := by
  have reported : (decodeUnits literal quote body).mapError ScanError.refused =
      (readUnits quote.mark body).mapError fun fault =>
        .refused (fault.1.error literal (Text.byteLength body - Text.byteLength fault.2)) := by
    rw [decode_units_eq]
    cases readUnits quote.mark body <;> rfl
  rw [reported]
  exact scan_units_returns literal (Quote.is_escaping_mark escaping) _ (List.suffix_refl body)
    (Nat.le_refl _)

theorem enclosed_of_split {literal body : List Char} {quote : Quote}
    (found : splitQuotes? literal = some (quote, body)) :
    literal = quote.mark :: body ++ [quote.mark] := by
  unfold splitQuotes? at found
  split at found
  · rename_i first second rest
    simp only [Option.bind_eq_bind, Option.bind_eq_some_iff] at found
    obtain ⟨quote', known, found⟩ := found
    split at found
    · rename_i closes
      cases found
      rw [← of_mark_eq_some_iff.mp known, List.cons_append,
        List.dropLast_append_getLast? first closes]
    · cases found
  · cases found

theorem scan_literal_returns (literal : String) :
    (scanLiteral literal).Returns literal.toList ((unquote literal).mapError .refused) := by
  apply (scan_quotes_returns literal.toList).bind
  cases found : splitQuotes? literal.toList with
  | none =>
      simp only [unquote, found]
      exact .pure _ _
  | some pair =>
      obtain ⟨quote, body⟩ := pair
      have inside : body <:+: literal.toList :=
        ⟨[quote.mark], [quote.mark], (enclosed_of_split found).symm⟩
      simp only [unquote, found]
      cases quote with
      | back =>
          dsimp only
          split
          · exact .pure _ _
          · exact .pure _ _
      | double =>
          dsimp only
          apply ((scan_body_returns literal .double body (by decide)).within inside).bind
          cases decodeUnits literal .double body with
          | error error => exact .pure _ _
          | ok units =>
              simp only [bind, Except.bind, Except.mapError]
              cases String.fromUTF8? (units.flatMap QuotedUnit.bytes).toByteArray with
              | none => exact .pure _ _
              | some text => exact .pure _ _
      | single =>
          dsimp only
          apply ((scan_body_returns literal .single body (by decide)).within inside).bind
          cases decodeUnits literal .single body with
          | error error => exact .pure _ _
          | ok units =>
              cases units with
              | nil => exact .pure _ _
              | cons unit others =>
                  cases others with
                  | nil => exact .pure _ _
                  | cons second others => exact .pure _ _

theorem refused_injective {result result' : Except QuoteError String}
    (same : result.mapError ScanError.refused = result'.mapError ScanError.refused) :
    result = result' := by
  cases result with
  | error error =>
      cases result' with
      | error error' =>
          cases same
          rfl
      | ok text' => cases same
  | ok text =>
      cases result' with
      | error error' => cases same
      | ok text' =>
          cases same
          rfl

/-- Unquoting a literal by byte offsets ends with what unquoting it gives, so no offset divides
a character, no unit is asked for where nothing is left, and the steps are enough. A body
with escapes is read in at most as many steps as it has bytes. Wherever reading stands in
it, the next unit is found without dividing a character, takes at least one byte, and
leaves an end of the body. -/
theorem unquote_cuts_on_boundaries (literal : String) :
    (scanLiteral literal).Returns literal.toList ((unquote literal).mapError .refused) ∧
    ∀ (mark : Quote) (body : List Char), mark ≠ .back →
      (scanUnits literal mark.mark body (Text.byteLength body) body).Returns body
        ((decodeUnits literal mark body).mapError .refused) ∧
      ∀ first text, first :: text <:+ body →
        (∀ offset, (scanUnit literal mark.mark offset (first :: text)).Returns body
          ((nextUnit mark.mark first text).mapError fun fault =>
            .refused (fault.error literal offset))) ∧
        ∀ unit tail, nextUnit mark.mark first text = .ok (unit, tail) →
          tail <:+ body ∧ Text.byteLength tail < Text.byteLength (first :: text) := by
  refine ⟨scan_literal_returns literal, ?_⟩
  intro mark body escaping
  refine ⟨scan_body_returns literal mark body escaping, ?_⟩
  intro first text behind
  refine ⟨?_, ?_⟩
  · intro offset
    exact (scan_unit_returns literal mark.mark offset first text).within behind.isInfix
  · intro unit tail read
    obtain ⟨shorter, less⟩ := next_unit_progress (Quote.is_escaping_mark escaping) read
    exact ⟨shorter.trans behind, less⟩

/-- Characters of two bytes around an octal escape, and one inside the digits of another escape,
where the second byte of the digits is no boundary. -/
theorem wide_characters_scanned :
    (scanLiteral "\"é\\101ß\"").taken =
        [⟨['\"', 'é', '\\', '1', '0', '1', 'ß', '\"'], 1, 9⟩, ⟨['\\', '1', '0', '1', 'ß'], 1, 6⟩,
          ⟨['1', '0', '1', 'ß'], 0, 3⟩, ⟨['1', '0', '1', 'ß'], 3, 5⟩] ∧
      (∀ extent ∈ (scanLiteral "\"é\\101ß\"").taken, extent.OnBoundaries) ∧
      unquote "\"é\\101ß\"" = .ok "éAß" ∧
      unquote "'\\x4é'" = .error (.invalidEscape "'\\x4é'" 0) ∧
      ['ß'] <:+ ['é', '\\', '1', '0', '1', 'ß'] := by
  have wide := unquote_cuts_on_boundaries "\"é\\101ß\""
  have cut := unquote_cuts_on_boundaries "'\\x4é'"
  have unit := (wide.2 .double ['é', '\\', '1', '0', '1', 'ß'] (by decide)).2 '\\'
    ['1', '0', '1', 'ß'] ⟨['é'], rfl⟩
  refine ⟨rfl, fun extent member => (wide.1.safe extent member).1, ?_, ?_, ?_⟩
  · exact refused_injective (Option.some.inj (wide.1.ends.symm.trans rfl))
  · exact refused_injective (Option.some.inj (cut.1.ends.symm.trans rfl))
  · exact (unit.2 (.byte 65) ['ß'] rfl).1

end LiteralFlow.Literal
