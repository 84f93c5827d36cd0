import LiteralFlow.Proofs.Json.Words

/-!
Space between the parts of a text has no meaning. A text consists of the marks of
arrays and objects and of scalars, and two texts with the same parts in the same
order are read alike, whatever space stands around the parts.
-/

namespace LiteralFlow.Json

/-- Two texts that differ in the space around their parts. -/
inductive Respaced : List Char → List Char → Prop where
  | nil : Respaced [] []
  | before {c : Char} {text text' : List Char} (blank : isSpace c = true)
      (later : Respaced text text') : Respaced (c :: text) text'
  | after {c : Char} {text text' : List Char} (blank : isSpace c = true)
      (later : Respaced text text') : Respaced text (c :: text')
  | mark {c : Char} {text text' : List Char} (mark : isMark c = true)
      (later : Respaced text text') : Respaced (c :: text) (c :: text')
  | scalar {word text text' : List Char} {value : Json}
      (read : readScalar? word = some (value, [])) (ends : EndsScalar text)
      (ends' : EndsScalar text') (later : Respaced text text') :
      Respaced (word ++ text) (word ++ text')

/-! ## The parts of two texts -/

theorem mark_visible {c : Char} (mark : isMark c = true) : isSpace c = false := by
  simp only [isMark, Bool.or_eq_true, decide_eq_true_eq] at mark
  rcases mark with ((((rfl | rfl) | rfl) | rfl) | rfl) | rfl <;> rfl

theorem skip_space_blank {c : Char} (blank : isSpace c = true) (text : List Char) :
    skipSpace (c :: text) = skipSpace text := by
  simp [skipSpace, blank]

theorem skip_space_word {word text : List Char} {value : Json}
    (read : readScalar? word = some (value, [])) : skipSpace (word ++ text) = word ++ text := by
  obtain ⟨c, tail, rfl, visible, -⟩ := scalar_head read
  exact skip_space_cons visible _

/-- The next part of both texts, behind the space before it. -/
inductive Aligned : List Char → List Char → Prop where
  | nil : Aligned [] []
  | mark {c : Char} {text text' : List Char} (mark : isMark c = true)
      (later : Respaced text text') : Aligned (c :: text) (c :: text')
  | scalar {word text text' : List Char} {value : Json}
      (read : readScalar? word = some (value, [])) (ends : EndsScalar text)
      (ends' : EndsScalar text') (later : Respaced text text') :
      Aligned (word ++ text) (word ++ text')

theorem Respaced.aligned {text text' : List Char} (respaced : Respaced text text') :
    Aligned (skipSpace text) (skipSpace text') := by
  induction respaced with
  | nil => exact .nil
  | before blank _ induction =>
      rw [skip_space_blank blank]
      exact induction
  | after blank _ induction =>
      rw [skip_space_blank blank]
      exact induction
  | mark mark later =>
      rw [skip_space_cons (mark_visible mark), skip_space_cons (mark_visible mark)]
      exact .mark mark later
  | scalar read ends ends' later =>
      rw [skip_space_word read, skip_space_word read]
      exact .scalar read ends ends' later

theorem Aligned.head_eq {text text' : List Char} (aligned : Aligned text text') :
    text.head? = text'.head? := by
  cases aligned with
  | nil => rfl
  | mark => rfl
  | scalar read =>
      obtain ⟨c, tail, rfl, -⟩ := scalar_head read
      rfl

theorem Aligned.of_mark {c : Char} {text next : List Char} (aligned : Aligned (c :: text) next)
    (mark : isMark c = true) : ∃ text', next = c :: text' ∧ Respaced text text' := by
  generalize whole : c :: text = front at aligned
  cases aligned with
  | nil => cases whole
  | mark _ later =>
      cases whole
      exact ⟨_, rfl, later⟩
  | scalar read =>
      obtain ⟨first, tail, rfl, -, other⟩ := scalar_head read
      cases whole
      rw [mark] at other
      cases other

theorem Aligned.of_scalar {text text' rest : List Char} {value : Json}
    (aligned : Aligned text text') (read : readScalar? text = some (value, rest)) :
    ∃ rest', readScalar? text' = some (value, rest') ∧ Respaced rest rest' ∧
      rest'.length < text'.length := by
  cases aligned with
  | nil => cases read
  | mark mark =>
      obtain ⟨first, tail, same, -, other⟩ := scalar_head read
      rw [(List.cons.inj same).1, other] at mark
      cases mark
  | scalar word ends ends' later =>
      rw [read_scalar_before word ends] at read
      cases read
      refine ⟨_, read_scalar_before word ends', later, ?_⟩
      obtain ⟨first, tail, rfl, -⟩ := scalar_head word
      simp only [List.cons_append, List.length_cons, List.length_append]
      omega

theorem Aligned.of_quote {body next : List Char} (aligned : Aligned ('\x22' :: body) next) :
    ∃ word value text text', body = word ++ text ∧ next = '\x22' :: (word ++ text') ∧
      (∀ behind, readString? (word ++ behind) = some (value, behind)) ∧ Respaced text text' := by
  generalize whole : '\x22' :: body = front at aligned
  cases aligned with
  | nil => cases whole
  | mark mark =>
      cases whole
      cases mark
  | scalar read ends ends' later =>
      obtain ⟨first, word, rfl, -⟩ := scalar_head read
      cases whole
      rw [readScalar?] at read
      obtain ⟨⟨value, left⟩, inner, same⟩ := Option.map_eq_some_iff.mp read
      cases same
      obtain ⟨whole, same, again⟩ := string_takes_word inner
      rw [List.append_nil] at same
      rw [← same] at again
      exact ⟨word, value, _, _, rfl, rfl, again, later⟩

theorem skip_space_length (text : List Char) : (skipSpace text).length ≤ text.length :=
  (List.dropWhile_suffix isSpace).length_le

/-! ## Reading two texts -/

/-- A text is read to a value, with any fuel that is enough for its length, and
the rest is a respaced one. -/
def ReadsTo {α : Type} (read : Nat → List Char → Option (α × List Char)) (text : List Char)
    (value : α) (rest : List Char) : Prop :=
  ∃ left, Respaced rest left ∧ left.length < text.length ∧
    ∀ fuel, text.length ≤ fuel + left.length → read fuel text = some (value, left)

def Alike {α : Type} (read : Nat → List Char → Option (α × List Char)) (fuel : Nat) : Prop :=
  ∀ text text' value rest, Respaced text text' → read fuel text = some (value, rest) →
    ReadsTo read text' value rest

def readEnclosed? {α : Type} (close : Char) (wrap : List α → Json)
    (inside : Nat → List Char → Option (List α × List Char)) (fuel : Nat) (text : List Char) :
    Option (Json × List Char) :=
  if (skipSpace text).head? = some close then some (wrap [], (skipSpace text).tail)
  else (inside fuel text).map fun (parts, rest) => (wrap parts, rest)

theorem head_ne_of_ne_cons {text : List Char} {c : Char} (other : ∀ rest, text ≠ c :: rest) :
    text.head? ≠ some c := by
  intro head
  obtain ⟨rest, same⟩ := List.head?_eq_some_iff.mp head
  exact other rest same

theorem read_value_array {fuel : Nat} {text inner : List Char}
    (opened : skipSpace text = '[' :: inner) :
    readValue? (fuel + 1) text = readEnclosed? ']' .array readItems? fuel inner := by
  rw [readValue?, opened, readEnclosed?]
  simp only
  split
  · rename_i same
    rw [same]
    rfl
  · rename_i other
    rw [if_neg (head_ne_of_ne_cons other)]

theorem read_value_object {fuel : Nat} {text inner : List Char}
    (opened : skipSpace text = '\x7b' :: inner) :
    readValue? (fuel + 1) text = readEnclosed? '\x7d' .object readMembers? fuel inner := by
  rw [readValue?, opened, readEnclosed?]
  simp only
  split
  · rename_i same
    rw [same]
    rfl
  · rename_i other
    rw [if_neg (head_ne_of_ne_cons other)]

theorem read_value_scalar {fuel : Nat} {text rest : List Char} {value : Json}
    (read : readScalar? (skipSpace text) = some (value, rest)) :
    readValue? (fuel + 1) text = some (value, rest) := by
  obtain ⟨c, tail, same, -, other⟩ := scalar_head read
  rw [readValue?]
  split
  · rename_i opened
    rw [same] at opened
    cases opened
    cases other
  · rename_i opened
    rw [same] at opened
    cases opened
    cases other
  · exact read

/-- A value is an array, an object or a scalar. -/
theorem read_value_cases {fuel : Nat} {text rest : List Char} {value : Json}
    (read : readValue? (fuel + 1) text = some (value, rest)) :
    (∃ inner, skipSpace text = '[' :: inner ∧
      readEnclosed? ']' .array readItems? fuel inner = some (value, rest)) ∨
    (∃ inner, skipSpace text = '\x7b' :: inner ∧
      readEnclosed? '\x7d' .object readMembers? fuel inner = some (value, rest)) ∨
    readScalar? (skipSpace text) = some (value, rest) := by
  by_cases array : ∃ inner, skipSpace text = '[' :: inner
  · obtain ⟨inner, opened⟩ := array
    rw [read_value_array opened] at read
    exact .inl ⟨inner, opened, read⟩
  by_cases object : ∃ inner, skipSpace text = '\x7b' :: inner
  · obtain ⟨inner, opened⟩ := object
    rw [read_value_object opened] at read
    exact .inr (.inl ⟨inner, opened, read⟩)
  rw [readValue?] at read
  split at read
  · exact absurd ⟨_, ‹_›⟩ array
  · exact absurd ⟨_, ‹_›⟩ object
  · exact .inr (.inr read)

theorem enclosed_alike {α : Type} {close : Char} (mark : isMark close = true)
    (wrap : List α → Json) {inside : Nat → List Char → Option (List α × List Char)} {fuel : Nat}
    (alike : Alike inside fuel) : Alike (readEnclosed? close wrap inside) fuel := by
  intro text text' value rest respaced read
  have head := respaced.aligned.head_eq
  rw [readEnclosed?] at read
  split at read
  · rename_i closed
    cases read
    obtain ⟨left, same⟩ := List.head?_eq_some_iff.mp closed
    have aligned := respaced.aligned
    have length := skip_space_length text'
    rw [same] at aligned
    obtain ⟨rest', same', later⟩ := aligned.of_mark mark
    rw [same', List.length_cons] at length
    rw [same]
    refine ⟨rest', later, length, fun fuel' _ => ?_⟩
    rw [readEnclosed?, same']
    simp
  · rename_i other
    obtain ⟨⟨parts, left⟩, inner, same⟩ := Option.map_eq_some_iff.mp read
    cases same
    obtain ⟨rest', later, shorter, reads⟩ := alike text text' parts _ respaced inner
    refine ⟨rest', later, shorter, fun fuel' enough => ?_⟩
    rw [readEnclosed?, ← head, if_neg other, reads fuel' enough]
    rfl

/-- One character opens an array or an object, so one unit of fuel is left for it. -/
theorem opened_alike {α : Type} {opening close : Char} {wrap : List α → Json}
    {inside : Nat → List Char → Option (List α × List Char)} {fuel : Nat}
    (marks : isMark opening = true ∧ isMark close = true) (alike : Alike inside fuel)
    (whole : ∀ fuel text inner, skipSpace text = opening :: inner →
      readValue? (fuel + 1) text = readEnclosed? close wrap inside fuel inner)
    {text text' inner rest : List Char} {value : Json} (respaced : Respaced text text')
    (opened : skipSpace text = opening :: inner)
    (read : readEnclosed? close wrap inside fuel inner = some (value, rest)) :
    ReadsTo readValue? text' value rest := by
  have aligned := respaced.aligned
  have length := skip_space_length text'
  rw [opened] at aligned
  obtain ⟨inner', opened', later⟩ := aligned.of_mark marks.1
  rw [opened', List.length_cons] at length
  obtain ⟨left, behind, shorter, reads⟩ :=
    enclosed_alike marks.2 wrap alike inner inner' value rest later read
  refine ⟨left, behind, by omega, fun fuel enough => ?_⟩
  cases fuel with
  | zero => omega
  | succ fuel =>
      rw [whole fuel text' inner' opened']
      exact reads fuel (by omega)

theorem value_alike {fuel : Nat} (items : Alike readItems? fuel)
    (members : Alike readMembers? fuel) : Alike readValue? (fuel + 1) := by
  intro text text' value rest respaced read
  rcases read_value_cases read with ⟨inner, opened, read⟩ | ⟨inner, opened, read⟩ | scalar
  · exact opened_alike (by decide) items (fun _ _ _ => read_value_array) respaced opened read
  · exact opened_alike (by decide) members (fun _ _ _ => read_value_object) respaced opened read
  obtain ⟨left, scalar', later, shorter⟩ := respaced.aligned.of_scalar scalar
  have length := skip_space_length text'
  refine ⟨left, later, by omega, fun fuel enough => ?_⟩
  cases fuel with
  | zero => omega
  | succ fuel => exact read_value_scalar scalar'

def readParts? {α : Type} (close : Char) (part : Nat → List Char → Option (α × List Char))
    (others : Nat → List Char → Option (List α × List Char)) (fuel : Nat) (text : List Char) :
    Option (List α × List Char) := do
  let (first, rest) ← part fuel text
  if (skipSpace rest).head? = some ',' then
    (others fuel (skipSpace rest).tail).map fun (parts, rest) => (first :: parts, rest)
  else if (skipSpace rest).head? = some close then some ([first], (skipSpace rest).tail)
  else none

def readMember? (fuel : Nat) (text : List Char) :
    Option ((Option String × Json) × List Char) := do
  let (key, rest) ← readKey? text
  let (value, rest) ← readValue? fuel rest
  some ((key, value), rest)

theorem read_items_eq (fuel : Nat) (text : List Char) :
    readItems? (fuel + 1) text = readParts? ']' readValue? readItems? fuel text := by
  rw [readItems?, readParts?]
  congr 1
  funext pair
  obtain ⟨item, rest⟩ := pair
  simp only
  cases skipSpace rest with
  | nil => rfl
  | cons c tail =>
      by_cases comma : c = ','
      · rw [comma]
        rfl
      by_cases closed : c = ']'
      · rw [closed]
        rfl
      simp only [List.head?_cons, Option.some.injEq, comma, closed, if_false]
      split <;> simp_all

theorem read_members_eq (fuel : Nat) (text : List Char) :
    readMembers? (fuel + 1) text = readParts? '\x7d' readMember? readMembers? fuel text := by
  simp only [readMembers?, readParts?, readMember?, Option.bind_eq_bind, Option.bind_assoc,
    Option.bind_some]
  congr 1
  funext keyed
  obtain ⟨key, behind⟩ := keyed
  congr 1
  funext pair
  obtain ⟨value, rest⟩ := pair
  simp only
  cases skipSpace rest with
  | nil => rfl
  | cons c tail =>
      by_cases comma : c = ','
      · rw [comma]
        rfl
      by_cases closed : c = '\x7d'
      · rw [closed]
        rfl
      simp only [List.head?_cons, Option.some.injEq, comma, closed, if_false]
      split <;> simp_all

/-- A part and the mark behind it take two characters, so less fuel is enough for
the other parts. -/
theorem parts_alike {α : Type} {close : Char} (mark : isMark close = true)
    {part : Nat → List Char → Option (α × List Char)}
    {others : Nat → List Char → Option (List α × List Char)} {fuel : Nat}
    (whole : ∀ fuel text, others (fuel + 1) text = readParts? close part others fuel text)
    (first : Alike part fuel) (later : Alike others fuel) : Alike others (fuel + 1) := by
  intro text text' parts rest respaced read
  have withFuel {left : List Char} (less : left.length < text'.length)
      (reads : ∀ fuel, text'.length ≤ fuel + 1 + left.length →
        readParts? close part others fuel text' = some (parts, left)) (fuel : Nat)
      (enough : text'.length ≤ fuel + left.length) : others fuel text' = some (parts, left) := by
    cases fuel with
    | zero => omega
    | succ fuel =>
        rw [whole]
        exact reads fuel enough
  rw [whole] at read
  simp only [readParts?, Option.bind_eq_bind, Option.bind_eq_some_iff] at read
  obtain ⟨⟨one, behind⟩, front, read⟩ := read
  obtain ⟨behind', after, shorter, reads⟩ := first text text' one behind respaced front
  have aligned := after.aligned
  have length := skip_space_length behind'
  split at read
  · rename_i comma
    obtain ⟨next, comma⟩ := List.head?_eq_some_iff.mp comma
    obtain ⟨⟨more, left⟩, others_read, same⟩ := Option.map_eq_some_iff.mp read
    cases same
    rw [comma] at aligned others_read
    obtain ⟨next', comma', respaced⟩ := aligned.of_mark rfl
    rw [comma', List.length_cons] at length
    obtain ⟨left', ends, less, all⟩ := later next next' more left respaced others_read
    refine ⟨left', ends, by omega, withFuel (by omega) fun fuel enough => ?_⟩
    rw [readParts?, reads fuel (by omega)]
    simp [comma', all fuel (by omega)]
  · rename_i other
    split at read
    · rename_i closed
      obtain ⟨next, closed⟩ := List.head?_eq_some_iff.mp closed
      cases read
      rw [closed] at aligned
      obtain ⟨next', closed', respaced⟩ := aligned.of_mark mark
      rw [closed', List.length_cons] at length
      rw [closed] at other ⊢
      refine ⟨next', respaced, by omega, withFuel (by omega) fun fuel enough => ?_⟩
      rw [readParts?, reads fuel (by omega)]
      simp at other
      simp [closed', other]
    · cases read

theorem key_alike {text text' rest : List Char} {key : Option String}
    (respaced : Respaced text text') (read : readKey? text = some (key, rest)) :
    ∃ left, readKey? text' = some (key, left) ∧ Respaced rest left ∧
      left.length < text'.length := by
  have aligned := respaced.aligned
  have length := skip_space_length text'
  unfold readKey? at read
  split at read
  · rename_i body quoted
    rw [quoted] at aligned
    obtain ⟨word, name, behind, behind', rfl, quoted', named, later⟩ := aligned.of_quote
    simp only [named, Option.bind_eq_bind, Option.bind_some] at read
    have next := later.aligned
    have space := skip_space_length behind'
    split at read
    · rename_i colon
      cases read
      rw [colon] at next
      obtain ⟨left, colon', ends⟩ := next.of_mark rfl
      rw [quoted', List.length_cons, List.length_append] at length
      rw [colon', List.length_cons] at space
      refine ⟨left, ?_, ends, by omega⟩
      rw [readKey?, quoted']
      simp only [named, Option.bind_eq_bind, Option.bind_some, colon']
    · cases read
  · cases read

theorem member_alike {fuel : Nat} (value : Alike readValue? fuel) : Alike readMember? fuel := by
  intro text text' member rest respaced read
  simp only [readMember?, Option.bind_eq_bind, Option.bind_eq_some_iff] at read
  obtain ⟨⟨key, behind⟩, named, ⟨inner, left⟩, valued, same⟩ := read
  cases same
  obtain ⟨behind', named', later, shorter⟩ := key_alike respaced named
  obtain ⟨left', ends, less, reads⟩ := value behind behind' inner _ later valued
  refine ⟨left', ends, by omega, fun fuel enough => ?_⟩
  simp only [readMember?, named', Option.bind_eq_bind, Option.bind_some, reads fuel (by omega)]

theorem read_alike (fuel : Nat) :
    Alike readValue? fuel ∧ Alike readItems? fuel ∧ Alike readMembers? fuel := by
  induction fuel with
  | zero =>
      refine ⟨?_, ?_, ?_⟩
      all_goals
        intro text text' value rest _ read
        cases read
  | succ fuel induction =>
      obtain ⟨value, items, members⟩ := induction
      exact ⟨value_alike items members, parts_alike rfl read_items_eq value items,
        parts_alike rfl read_members_eq (member_alike value) members⟩

/-- Space between the parts of a text has no meaning. -/
theorem parse_respaced {text text' : String} {json : Json}
    (respaced : Respaced text.toList text'.toList) (read : parse? text = some json) :
    parse? text' = some json := by
  simp only [parse?, Option.bind_eq_bind, Option.bind_eq_some_iff,
    Option.ite_none_right_eq_some] at read ⊢
  obtain ⟨⟨value, rest⟩, whole, empty, same⟩ := read
  cases same
  obtain ⟨left, ends, less, reads⟩ := (read_alike _).1 _ _ _ _ respaced whole
  refine ⟨(value, left), reads _ (by omega), ?_, rfl⟩
  have head := ends.aligned.head_eq
  rw [List.isEmpty_iff.mp empty] at head
  exact List.isEmpty_iff.mpr (List.head?_eq_none_iff.mp head.symm)

/-! ## Every text that is read has such parts -/

theorem Respaced.of_skipped {text : List Char}
    (skipped : Respaced (skipSpace text) (skipSpace text)) : Respaced text text := by
  have widen {front back text' : List Char} (blank : ∀ c ∈ front, isSpace c = true)
      (later : Respaced back text') : Respaced (front ++ back) (front ++ text') := by
    induction front with
    | nil => exact later
    | cons c front induction =>
        have here := blank c (by simp)
        have behind := induction fun other found => blank other (by simp [found])
        exact .before here (.after here behind)
  have divided : text.takeWhile isSpace ++ skipSpace text = text := List.takeWhile_append_dropWhile
  rw [← divided]
  exact widen (List.all_eq_true.mp List.all_takeWhile) skipped

theorem ends_scalar_of_skipped {text : List Char}
    (mark : ∀ c, (skipSpace text).head? = some c → isMark c = true) : EndsScalar text := by
  intro first head
  obtain ⟨tail, rfl⟩ := List.head?_eq_some_iff.mp head
  cases blank : isSpace first with
  | true => exact Or.inl rfl
  | false =>
      rw [skip_space_cons blank] at mark
      exact Or.inr (mark first rfl)

def Covers {α : Type} (read : List Char → Option (α × List Char)) : Prop :=
  ∀ text value rest, read text = some (value, rest) → EndsScalar rest → Respaced rest rest →
    Respaced text text

theorem enclosed_covers {α : Type} {close : Char} (mark : isMark close = true)
    {wrap : List α → Json} {inside : Nat → List Char → Option (List α × List Char)} {fuel : Nat}
    (covers : Covers (inside fuel)) : Covers (readEnclosed? close wrap inside fuel) := by
  intro text value rest read ends later
  rw [readEnclosed?] at read
  split at read
  · rename_i closed
    obtain ⟨left, same⟩ := List.head?_eq_some_iff.mp closed
    rw [same] at read
    cases read
    apply Respaced.of_skipped
    rw [same]
    exact .mark mark later
  · obtain ⟨⟨parts, left⟩, inner, same⟩ := Option.map_eq_some_iff.mp read
    cases same
    exact covers text parts _ inner ends later

theorem value_covers {fuel : Nat} (items : Covers (readItems? fuel))
    (members : Covers (readMembers? fuel)) : Covers (readValue? (fuel + 1)) := by
  intro text value rest read ends later
  apply Respaced.of_skipped
  rcases read_value_cases read with ⟨inner, opened, read⟩ | ⟨inner, opened, read⟩ | scalar
  · rw [opened]
    exact .mark rfl (enclosed_covers rfl items inner value rest read ends later)
  · rw [opened]
    exact .mark rfl (enclosed_covers rfl members inner value rest read ends later)
  obtain ⟨word, same, again⟩ := scalar_takes_word _ _ _ scalar
  have whole := again [] ends_alike_nil
  rw [List.append_nil] at whole
  rw [same]
  exact .scalar whole ends ends later

theorem parts_cover {α : Type} {close : Char} (mark : isMark close = true)
    {part : Nat → List Char → Option (α × List Char)}
    {others : Nat → List Char → Option (List α × List Char)} {fuel : Nat}
    (first : Covers (part fuel)) (more : Covers (others fuel)) :
    Covers (readParts? close part others fuel) := by
  intro text parts rest read ends later
  simp only [readParts?, Option.bind_eq_bind, Option.bind_eq_some_iff] at read
  obtain ⟨⟨one, behind⟩, front, read⟩ := read
  have untilMark {c : Char} {next : List Char} (mark : isMark c = true)
      (same : skipSpace behind = c :: next) (covered : Respaced next next) :
      Respaced text text := by
    apply first text one behind front (ends_scalar_of_skipped (by simp [same, mark]))
    apply Respaced.of_skipped
    rw [same]
    exact .mark mark covered
  split at read
  · rename_i comma
    obtain ⟨next, comma⟩ := List.head?_eq_some_iff.mp comma
    obtain ⟨⟨parts, left⟩, inner, same⟩ := Option.map_eq_some_iff.mp read
    cases same
    rw [comma] at inner
    exact untilMark rfl comma (more next parts _ inner ends later)
  · split at read
    · rename_i closed
      obtain ⟨next, closed⟩ := List.head?_eq_some_iff.mp closed
      rw [closed] at read
      cases read
      exact untilMark mark closed later
    · cases read

theorem key_covers {text rest : List Char} {key : Option String}
    (read : readKey? text = some (key, rest)) (later : Respaced rest rest) :
    Respaced text text := by
  apply Respaced.of_skipped
  unfold readKey? at read
  split at read
  · rename_i body quoted
    simp only [Option.bind_eq_bind, Option.bind_eq_some_iff] at read
    obtain ⟨⟨name, behind⟩, string, read⟩ := read
    obtain ⟨word, rfl, again⟩ := string_takes_word string
    split at read
    · rename_i colon
      cases read
      have ends : EndsScalar behind := ends_scalar_of_skipped (by simp [colon, isMark])
      have covered : Respaced behind behind := by
        apply Respaced.of_skipped
        simp only at colon
        rw [colon]
        exact .mark rfl later
      have whole : readScalar? ('\x22' :: word) = some (.string name, []) := by
        have closed := again []
        rw [List.append_nil] at closed
        rw [readScalar?, closed]
        rfl
      rw [quoted]
      exact .scalar whole ends ends covered
    · cases read
  · cases read

theorem read_covers (fuel : Nat) :
    Covers (readValue? fuel) ∧ Covers (readItems? fuel) ∧ Covers (readMembers? fuel) := by
  induction fuel with
  | zero =>
      refine ⟨?_, ?_, ?_⟩
      all_goals
        intro text value rest read
        cases read
  | succ fuel induction =>
      obtain ⟨value, items, members⟩ := induction
      have member : Covers (readMember? fuel) := by
        intro text entry rest read ends later
        simp only [readMember?, Option.bind_eq_bind, Option.bind_eq_some_iff] at read
        obtain ⟨⟨key, behind⟩, named, ⟨inner, left⟩, valued, same⟩ := read
        cases same
        exact key_covers named (value behind inner _ valued ends later)
      refine ⟨value_covers items members, ?_, ?_⟩
      · intro text parts rest read
        rw [read_items_eq] at read
        exact parts_cover rfl value items text parts rest read
      · intro text parts rest read
        rw [read_members_eq] at read
        exact parts_cover rfl member members text parts rest read

/-- The parts of a text that is read are those of the text itself. -/
theorem respaced_self {text : String} {json : Json} (read : parse? text = some json) :
    Respaced text.toList text.toList := by
  simp only [parse?, Option.bind_eq_bind, Option.bind_eq_some_iff,
    Option.ite_none_right_eq_some] at read
  obtain ⟨⟨value, rest⟩, whole, empty, -⟩ := read
  have skipped := List.isEmpty_iff.mp empty
  apply (read_covers _).1 _ _ _ whole (ends_scalar_of_skipped (by simp [skipped]))
  apply Respaced.of_skipped
  simp only at skipped
  rw [skipped]
  exact .nil

end LiteralFlow.Json
