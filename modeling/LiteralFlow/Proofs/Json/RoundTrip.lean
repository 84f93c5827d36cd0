import LiteralFlow.Proofs.Json.Scalar

/-!
A document that is written with one member or item a line is read back as it
was. The fuel of the reader is measured by the characters that a value takes.
-/

namespace LiteralFlow.Json

theorem skip_space_append {space : List Char} (blank : ∀ c ∈ space, isSpace c = true)
    (text : List Char) : skipSpace (space ++ text) = skipSpace text :=
  List.dropWhile_append_of_pos blank

theorem skip_space_cons {c : Char} (visible : isSpace c = false) (text : List Char) :
    skipSpace (c :: text) = c :: text := by
  simp [skipSpace, visible]

theorem new_line_blank (level : Nat) : ∀ c ∈ newLine level, isSpace c = true := by
  intro c member
  simp only [newLine, List.mem_cons, List.mem_replicate] at member
  rcases member with rfl | ⟨-, rfl⟩
  · rfl
  · rfl

theorem new_line_length (level : Nat) : 0 < (newLine level).length := by
  simp [newLine]

theorem read_value_space {space : List Char} (blank : ∀ c ∈ space, isSpace c = true)
    (fuel : Nat) (text : List Char) :
    readValue? fuel (space ++ text) = readValue? fuel text := by
  cases fuel with
  | zero => rw [readValue?, readValue?]
  | succ fuel => rw [readValue?, readValue?, skip_space_append blank]

/-- Documents in which all numbers are natural ones. -/
inductive Natural : Json → Prop where
  | null : Natural .null
  | bool (value : Bool) : Natural (.bool value)
  | number (n : Nat) : Natural (.nat n)
  | string (value : Option String) : Natural (.string value)
  | array {items : List Json} (each : ∀ item ∈ items, Natural item) : Natural (.array items)
  | object {members : List (Option String × Json)}
      (each : ∀ member ∈ members, Natural member.2) : Natural (.object members)

theorem natural_record {members : List (String × Json)}
    (each : ∀ member ∈ members, Natural member.2) : Natural (record members) := by
  apply Natural.object
  intro member found
  obtain ⟨origin, listed, rfl⟩ := List.mem_map.mp found
  exact each origin listed

theorem natural_option {α : Type} {encode : α → Json} {value : Option α}
    (each : ∀ inner, Natural (encode inner)) : Natural (ofOption encode value) := by
  cases value with
  | none => exact Natural.null
  | some inner => exact each inner

theorem natural_list {α : Type} {encode : α → Json} {values : List α}
    (each : ∀ inner, Natural (encode inner)) : Natural (array (values.map encode)) := by
  apply Natural.array
  intro item found
  obtain ⟨inner, -, rfl⟩ := List.mem_map.mp found
  exact each inner

/-- The written form of a value starts with a visible character that closes no
array, takes some characters, and is read back before every text that does not
continue a number. -/
structure Reads (json : Json) : Prop where
  starts : ∀ level rest, ∃ c text, json.pretty level rest = c :: text ∧
    isSpace c = false ∧ c ≠ ']'
  longer : ∀ level rest, rest.length < (json.pretty level rest).length
  reads : ∀ level rest fuel, EndsNumber rest →
    (json.pretty level rest).length ≤ fuel + rest.length →
    readValue? fuel (json.pretty level rest) = some (json, rest)

theorem reads_scalar {json : Json} {c : Char} {text : List Char}
    (scalar : ∀ level rest, json.pretty level rest = writeScalar json ++ rest)
    (written : writeScalar json = c :: text)
    (head : isSpace c = false ∧ c ≠ ']' ∧ c ≠ '[' ∧ c ≠ '\x7b')
    (read : ∀ rest, EndsNumber rest → readScalar? (writeScalar json ++ rest) = some (json, rest)) :
    Reads json := by
  obtain ⟨visible, notClosing, notArray, notObject⟩ := head
  refine ⟨?_, ?_, ?_⟩
  · intro level rest
    rw [scalar, written]
    exact ⟨c, text ++ rest, rfl, visible, notClosing⟩
  · intro level rest
    rw [scalar, written]
    simp only [List.cons_append, List.length_cons, List.length_append]
    omega
  · intro level rest fuel ends enough
    have result := read rest ends
    rw [scalar] at enough ⊢
    rw [written, List.cons_append] at enough result ⊢
    cases fuel with
    | zero =>
        simp only [List.length_cons, List.length_append] at enough
        omega
    | succ fuel =>
        rw [readValue?, skip_space_cons visible]
        split
        · rename_i same
          exact absurd (List.cons.inj same).1 notArray
        · rename_i same
          exact absurd (List.cons.inj same).1 notObject
        · exact result

theorem reads_null : Reads .null := by
  apply reads_scalar (fun level rest => by simp [pretty]) rfl (by decide)
  intro rest _
  rfl

theorem reads_bool (value : Bool) : Reads (.bool value) := by
  cases value with
  | true =>
      apply reads_scalar (fun level rest => by simp [pretty]) rfl (by decide)
      intro rest _
      rfl
  | false =>
      apply reads_scalar (fun level rest => by simp [pretty]) rfl (by decide)
      intro rest _
      rfl

theorem reads_string (value : Option String) : Reads (.string value) := by
  obtain ⟨text, quoted, -⟩ := read_string_written value []
  have written : writeScalar (.string value) = '\x22' :: text := by
    rw [writeScalar, ← quoted, List.append_nil]
  apply reads_scalar (fun level rest => by simp [pretty]) written (by decide)
  intro rest _
  obtain ⟨tail, whole, read⟩ := read_string_written value rest
  rw [writeScalar, whole]
  simp only [readScalar?, read, Option.map_some]

/-- The first digit of a number is none of the characters with a meaning of
their own. -/
theorem digit_head {c : Char} (digit : c.isDigit = true) :
    (isSpace c = false ∧ c ≠ ']' ∧ c ≠ '[' ∧ c ≠ '\x7b') ∧
      c ≠ '\x22' ∧ c ≠ 'n' ∧ c ≠ 't' ∧ c ≠ 'f' := by
  have apart (other : Char) (notDigit : other.isDigit = false) : c ≠ other := by
    intro same
    rw [same, notDigit] at digit
    cases digit
  have space : isSpace c = false := by
    simp [isSpace, apart ' ' rfl, apart '\n' rfl, apart '\t' rfl, apart '\r' rfl]
  exact ⟨⟨space, apart _ rfl, apart _ rfl, apart _ rfl⟩,
    apart _ rfl, apart _ rfl, apart _ rfl, apart _ rfl⟩

theorem reads_number (n : Nat) : Reads (.nat n) := by
  cases digits : Nat.toDigits 10 n with
  | nil => exact absurd digits Nat.toDigits_ne_nil
  | cons c text =>
      have digit : c.isDigit = true := Text.digits_of_nat (n := n) c (by simp [digits])
      obtain ⟨head, notQuote, notNull, notTrue, notFalse⟩ := digit_head digit
      have written : writeScalar (.nat n) = c :: text := by
        rw [nat, writeScalar, write_number_of_nat, digits]
      apply reads_scalar (fun level rest => by simp [nat, pretty]) written head
      intro rest ends
      have read := read_number_of_nat (n := n) ends
      rw [write_number_of_nat, digits] at read
      rw [written]
      simp only [readScalar?]
      split
      · rename_i same
        exact absurd (List.cons.inj same).1 notQuote
      · rename_i same
        exact absurd (List.cons.inj same).1 notNull
      · rename_i same
        exact absurd (List.cons.inj same).1 notTrue
      · rename_i same
        exact absurd (List.cons.inj same).1 notFalse
      · rw [read]
        rfl

theorem ends_number_new_line (level : Nat) (rest : List Char) :
    EndsNumber (newLine level ++ rest) := by
  intro c head
  cases head
  decide

theorem ends_number_comma (rest : List Char) : EndsNumber (',' :: rest) := by
  intro c head
  cases head
  decide

theorem pretty_items_longer {items : List Json} (each : ∀ item ∈ items, Reads item)
    (level : Nat) (rest : List Char) :
    rest.length ≤ (prettyItems level items rest).length := by
  induction items with
  | nil => simp [prettyItems]
  | cons item items induction =>
      have inner := induction fun other member => each other (by simp [member])
      cases items with
      | nil =>
          have longer := (each item (by simp)).longer level rest
          simp only [prettyItems, List.length_append]
          omega
      | cons next items =>
          have longer := (each item (by simp)).longer level
            (',' :: prettyItems level (next :: items) rest)
          simp only [prettyItems, List.length_append, List.length_cons] at inner longer ⊢
          omega

/-- The first visible character of the items does not close the array. -/
theorem pretty_items_start {item : Json} (reads : Reads item) (items : List Json)
    (level : Nat) (rest : List Char) :
    ∃ c text, skipSpace (prettyItems level (item :: items) rest) = c :: text ∧ c ≠ ']' := by
  have start (tail : List Char) :
      ∃ c text, skipSpace (newLine level ++ item.pretty level tail) = c :: text ∧ c ≠ ']' := by
    obtain ⟨c, text, written, visible, notClosing⟩ := reads.starts level tail
    refine ⟨c, text, ?_, notClosing⟩
    rw [skip_space_append (new_line_blank level), written, skip_space_cons visible]
  cases items with
  | nil =>
      rw [prettyItems]
      exact start rest
  | cons next items =>
      rw [prettyItems]
      · exact start _
      · simp

/-- The items of an array up to its closing bracket on a line of its own. -/
theorem read_items_pretty {items : List Json} (nonempty : items ≠ [])
    (each : ∀ item ∈ items, Reads item) (level outer fuel : Nat) (rest : List Char)
    (enough : (prettyItems level items (newLine outer ++ ']' :: rest)).length ≤
      fuel + rest.length) :
    readItems? fuel (prettyItems level items (newLine outer ++ ']' :: rest)) =
      some (items, rest) := by
  -- The text behind the items is fixed, and each item pays with its characters
  -- for the unit of fuel that its step takes.
  let closing := newLine outer ++ ']' :: rest
  have closingLength : rest.length < closing.length := by
    simp only [closing, List.length_append, List.length_cons]
    omega
  have lineLength := new_line_length level
  have skipClosing : skipSpace closing = ']' :: rest := by
    rw [skip_space_append (new_line_blank outer), skip_space_cons (by decide)]
  change (prettyItems level items closing).length ≤ fuel + rest.length at enough
  change readItems? fuel (prettyItems level items closing) = some (items, rest)
  induction items generalizing fuel with
  | nil => exact absurd rfl nonempty
  | cons item items induction =>
      have reads := each item (by simp)
      cases items with
      | nil =>
          simp only [prettyItems, List.length_append] at enough ⊢
          have longer := reads.longer level closing
          cases fuel with
          | zero => omega
          | succ fuel =>
              have read := reads.reads level closing fuel
                (ends_number_new_line outer _) (by omega)
              simp only [readItems?, read_value_space (new_line_blank level), read,
                Option.bind_eq_bind, Option.bind_some, skipClosing]
      | cons next items =>
          let tail := ',' :: prettyItems level (next :: items) closing
          change (newLine level ++ item.pretty level tail).length ≤ fuel + rest.length at enough
          change readItems? fuel (newLine level ++ item.pretty level tail) = _
          have longer := reads.longer level tail
          have inner := pretty_items_longer
            (fun other member => each other (List.mem_cons_of_mem item member)) level closing
          have tailLength :
              tail.length = (prettyItems level (next :: items) closing).length + 1 := rfl
          simp only [List.length_append] at enough
          cases fuel with
          | zero => omega
          | succ fuel =>
              have read := reads.reads level tail fuel (ends_number_comma _) (by omega)
              have others := induction (by simp)
                (fun other member => each other (by simp [member])) fuel (by omega)
              have skipTail : skipSpace tail = tail := skip_space_cons (by decide) _
              simp only [readItems?, read_value_space (new_line_blank level), read,
                Option.bind_eq_bind, Option.bind_some, skipTail]
              simp only [tail, others, Option.map_some]

theorem reads_enclosed {json : Json} {opening : Char} {inside : Nat → List Char → List Char}
    (written : ∀ level rest, json.pretty level rest = opening :: inside level rest)
    (head : isSpace opening = false ∧ opening ≠ ']')
    (longer : ∀ level rest, rest.length < (inside level rest).length)
    (read : ∀ level rest fuel, (inside level rest).length ≤ fuel + rest.length →
      readValue? (fuel + 1) (opening :: inside level rest) = some (json, rest)) :
    Reads json := by
  refine ⟨?_, ?_, ?_⟩
  · intro level rest
    exact ⟨opening, inside level rest, written level rest, head⟩
  · intro level rest
    have more := longer level rest
    rw [written, List.length_cons]
    omega
  · intro level rest fuel _ enough
    have more := longer level rest
    rw [written] at enough ⊢
    rw [List.length_cons] at enough
    cases fuel with
    | zero => omega
    | succ fuel => exact read level rest fuel (by omega)

theorem reads_array {items : List Json} (each : ∀ item ∈ items, Reads item) :
    Reads (.array items) := by
  have skipOpening := skip_space_cons (show isSpace '[' = false by decide)
  cases items with
  | nil =>
      apply reads_enclosed (fun level rest => by rw [pretty]) (by decide)
      · intro level rest
        simp
      · intro level rest fuel _
        simp only [readValue?, skipOpening, skip_space_cons (show isSpace ']' = false by decide)]
  | cons item items =>
      apply reads_enclosed (fun level rest => by rw [pretty]) (by decide)
      · intro level rest
        have inner := pretty_items_longer each (level + 1) (newLine level ++ ']' :: rest)
        simp only [List.length_cons, List.length_append] at inner
        omega
      · intro level rest fuel enough
        have read := read_items_pretty (by simp) each (level + 1) level fuel rest enough
        obtain ⟨c, text, start, notClosing⟩ := pretty_items_start (each item (by simp)) items
          (level + 1) (newLine level ++ ']' :: rest)
        simp only [readValue?, skipOpening, start, read, Option.map_some]
        split
        · rename_i same
          exact absurd (List.cons.inj same).1 notClosing
        · rfl

/-- A written key is a quote and a text that is read back up to the quote behind it. -/
theorem read_key_written (key : Option String) (level : Nat) (rest : List Char) :
    readKey? (newLine level ++ writeString key ++ ':' :: rest) = some (key, rest) := by
  obtain ⟨text, written, read⟩ := read_string_written key (':' :: rest)
  rw [readKey?, List.append_assoc, skip_space_append (new_line_blank level), written,
    skip_space_cons (by decide)]
  simp only [read, Option.bind_eq_bind, Option.bind_some,
    skip_space_cons (show isSpace ':' = false by decide)]

theorem pretty_members_longer {members : List (Option String × Json)}
    (each : ∀ member ∈ members, Reads member.2) (level : Nat) (rest : List Char) :
    rest.length ≤ (prettyMembers level members rest).length := by
  induction members with
  | nil => simp [prettyMembers]
  | cons member members induction =>
      have inner := induction fun other later => each other (by simp [later])
      obtain ⟨key, value⟩ := member
      have reads : Reads value := each (key, value) (by simp)
      cases members with
      | nil =>
          have longer := reads.longer level rest
          simp only [prettyMembers, List.length_append, List.length_cons]
          omega
      | cons next members =>
          have longer := reads.longer level (',' :: prettyMembers level (next :: members) rest)
          simp only [prettyMembers, List.length_append, List.length_cons] at inner longer ⊢
          omega

/-- The first visible character of the members opens a key. -/
theorem pretty_members_start (member : Option String × Json)
    (members : List (Option String × Json)) (level : Nat) (rest : List Char) :
    ∃ text, skipSpace (prettyMembers level (member :: members) rest) = '\x22' :: text := by
  obtain ⟨key, value⟩ := member
  have start (tail : List Char) :
      ∃ text, skipSpace (newLine level ++ writeString key ++ tail) = '\x22' :: text := by
    obtain ⟨text, written, -⟩ := read_string_written key tail
    refine ⟨text, ?_⟩
    rw [List.append_assoc, skip_space_append (new_line_blank level), written,
      skip_space_cons (by decide)]
  cases members with
  | nil =>
      rw [prettyMembers]
      exact start _
  | cons next members =>
      rw [prettyMembers]
      · exact start _
      · simp

/-- The members of an object up to its closing brace on a line of its own. -/
theorem read_members_pretty {members : List (Option String × Json)} (nonempty : members ≠ [])
    (each : ∀ member ∈ members, Reads member.2) (level outer fuel : Nat) (rest : List Char)
    (enough : (prettyMembers level members (newLine outer ++ '\x7d' :: rest)).length ≤
      fuel + rest.length) :
    readMembers? fuel (prettyMembers level members (newLine outer ++ '\x7d' :: rest)) =
      some (members, rest) := by
  let closing := newLine outer ++ '\x7d' :: rest
  have closingLength : rest.length < closing.length := by
    simp only [closing, List.length_append, List.length_cons]
    omega
  have skipClosing : skipSpace closing = '\x7d' :: rest := by
    rw [skip_space_append (new_line_blank outer), skip_space_cons (by decide)]
  have space : ∀ c ∈ [' '], isSpace c = true := by
    intro c member
    rw [List.mem_singleton.mp member]
    rfl
  change (prettyMembers level members closing).length ≤ fuel + rest.length at enough
  change readMembers? fuel (prettyMembers level members closing) = some (members, rest)
  induction members generalizing fuel with
  | nil => exact absurd rfl nonempty
  | cons member members induction =>
      obtain ⟨key, value⟩ := member
      have reads : Reads value := each (key, value) (by simp)
      cases members with
      | nil =>
          simp only [prettyMembers, List.length_append, List.length_cons] at enough ⊢
          have longer := reads.longer level closing
          cases fuel with
          | zero => omega
          | succ fuel =>
              have read := reads.reads level closing fuel
                (ends_number_new_line outer _) (by omega)
              rw [← read_value_space space] at read
              simp only [List.cons_append, List.nil_append] at read
              simp only [readMembers?, read_key_written, read,
                Option.bind_eq_bind, Option.bind_some, skipClosing]
      | cons next members =>
          let tail := ',' :: prettyMembers level (next :: members) closing
          let written := newLine level ++ writeString key ++ ':' :: ' ' :: value.pretty level tail
          change written.length ≤ fuel + rest.length at enough
          change readMembers? fuel written = _
          have longer := reads.longer level tail
          have inner := pretty_members_longer
            (fun other later => each other (List.mem_cons_of_mem (key, value) later)) level closing
          have tailLength :
              tail.length = (prettyMembers level (next :: members) closing).length + 1 := rfl
          simp only [written, List.length_append, List.length_cons] at enough
          cases fuel with
          | zero => omega
          | succ fuel =>
              have read := reads.reads level tail fuel (ends_number_comma _) (by omega)
              rw [← read_value_space space] at read
              simp only [List.cons_append, List.nil_append] at read
              have others := induction (by simp)
                (fun other later => each other (by simp [later])) fuel (by omega)
              have skipTail : skipSpace tail = tail := skip_space_cons (by decide) _
              simp only [written, readMembers?, read_key_written, read,
                Option.bind_eq_bind, Option.bind_some, skipTail]
              simp only [tail, others, Option.map_some]

theorem reads_object {members : List (Option String × Json)}
    (each : ∀ member ∈ members, Reads member.2) : Reads (.object members) := by
  have skipOpening := skip_space_cons (show isSpace '\x7b' = false by decide)
  cases members with
  | nil =>
      apply reads_enclosed (fun level rest => by rw [pretty]) (by decide)
      · intro level rest
        simp
      · intro level rest fuel _
        simp only [readValue?, skipOpening,
          skip_space_cons (show isSpace '\x7d' = false by decide)]
  | cons member members =>
      apply reads_enclosed (fun level rest => by rw [pretty]) (by decide)
      · intro level rest
        have inner := pretty_members_longer each (level + 1) (newLine level ++ '\x7d' :: rest)
        simp only [List.length_cons, List.length_append] at inner
        omega
      · intro level rest fuel enough
        have read := read_members_pretty (by simp) each (level + 1) level fuel rest enough
        obtain ⟨text, start⟩ := pretty_members_start member members
          (level + 1) (newLine level ++ '\x7d' :: rest)
        simp only [readValue?, skipOpening, start, read, Option.map_some]
        rfl

theorem reads_of_natural {json : Json} (natural : Natural json) : Reads json := by
  induction natural with
  | null => exact reads_null
  | bool value => exact reads_bool value
  | number n => exact reads_number n
  | string value => exact reads_string value
  | array _ induction => exact reads_array induction
  | object _ induction => exact reads_object induction

theorem parse_pretty_text {json : Json} (natural : Natural json) :
    parse? json.toPrettyText = some json := by
  have ends : EndsNumber [] := by
    intro c head
    cases head
  have read := (reads_of_natural natural).reads 0 [] ((json.pretty 0 []).length + 1) ends (by simp)
  simp only [parse?, toPrettyText, String.toList_ofList, read, Option.bind_eq_bind,
    Option.bind_some]
  rfl

end LiteralFlow.Json
