import LiteralFlow.Config.Document
import LiteralFlow.Proofs.Text.Digits
import LiteralFlow.Proofs.Yaml.Mapping

/-!
Configurations read back from their YAML documents. The patterns may be any
texts; reading the document of a configuration gives the configuration, or the
reason why it is not valid.
-/

namespace LiteralFlow

namespace Yaml

variable {text : List Char}

theorem normalize_printable (printable : ∀ c ∈ text, isPrintable c = true) :
    normalizeBreaks text = text := by
  induction text with
  | nil => rfl
  | cons c text induction =>
      have ⟨first, others⟩ := List.forall_mem_cons.mp printable
      have carriage : c ≠ '\r' := ne_of_printable first (by decide)
      have line : c ≠ '\u0085' := ne_of_printable first (by decide)
      rw [normalizeBreaks.eq_3 c text fun _ same _ => carriage same,
        if_neg (not_or.mpr ⟨carriage, line⟩), induction others]

theorem all_allowed (printable : ∀ c ∈ text, isPrintable c = true) : text.all isAllowed = true := by
  rw [List.all_eq_true]
  intro c member
  simp [isAllowed, printable c member]

/-- A document of printable characters that starts with a key of its mapping. -/
theorem parse_mapping {document : String} {key : List Char} {entries : List (Scalar × Node)}
    (printable : ∀ c ∈ document.toList, isPrintable c = true) (named : IsKeyText key)
    (start : document.toList = key ++ text) (long : 3 ≤ document.toList.length)
    (read : ∀ fuel, readEntries? 0 (fuel + 8) ⟨0, document.toList⟩ =
      some (entries, true, ⟨0, []⟩)) :
    parse? document = some entries := by
  obtain ⟨c, front, rfl⟩ := List.exists_cons_of_ne_nil named.nonempty
  have first := named.characters c (by simp)
  have brace : c ≠ '\x7b' := ne_of_key_char first (by decide)
  have dash : c ≠ '-' := ne_of_key_char first (by decide)
  have dot : c ≠ '.' := ne_of_key_char first (by decide)
  obtain ⟨fuel, enough⟩ : ∃ fuel, 2 * document.toList.length + 2 = fuel + 8 :=
    ⟨2 * document.toList.length - 6, by omega⟩
  have entriesRead := read fuel
  rw [parse?, if_pos (all_allowed printable), normalize_printable printable]
  simp only [enough]
  rw [start, List.cons_append] at entriesRead ⊢
  have stays : (Cursor.ofText (c :: (front ++ text))).skip false true =
      (true, ⟨0, c :: (front ++ text)⟩) := skip_stops_at_key first
  have root : readRoot? (fuel + 8) true ⟨0, c :: (front ++ text)⟩ =
      some (entries, true, ⟨0, []⟩) := by
    simp [readRoot?, brace, Cursor.not_marker dash dot, entriesRead]
  have finished : isFinished (fuel + 8) true ⟨0, []⟩ = true := rfl
  simp only [stays, Cursor.marker_eq_none dash, root, finished, Option.bind_eq_bind,
    Option.bind_some, if_true]

def nestedLines (first second third one two three : List Char) : List Char :=
  first ++ ':' :: ' ' :: (one ++ ['\n'] ++ (List.replicate 2 ' ' ++ (second ++ ':' :: ' ' ::
    (two ++ (List.replicate 2 ' ' ++ (third ++ ':' :: ' ' :: three))))))

def outerLines (first second third one two nested : List Char) : List Char :=
  first ++ ':' :: ' ' :: (one ++ ['\n'] ++ (List.replicate 0 ' ' ++ (second ++ ':' :: ' ' ::
    (two ++ ['\n'] ++ (List.replicate 0 ' ' ++ (third ++ ':' :: '\n' ::
      (List.replicate 2 ' ' ++ nested)))))))

section Lines

variable {first second third one two three nested : List Char} {left middle right : Scalar}

theorem read_nested_lines (fuel : Nat) (firstKey : IsKeyText first) (secondKey : IsKeyText second)
    (thirdKey : IsKeyText third) (leftReads : ReadsAs 2 (one ++ ['\n']) left)
    (middleReads : ReadsAs 2 two middle) (rightReads : ReadsAs 2 three right) :
    readEntries? 2 (fuel + 4) ⟨2, nestedLines first second third one two three⟩ =
      some ([(⟨true, first⟩, .scalar left), (⟨true, second⟩, .scalar middle),
        (⟨true, third⟩, .scalar right)], true, ⟨0, []⟩) := by
  obtain ⟨c, second, rfl⟩ := List.exists_cons_of_ne_nil secondKey.nonempty
  obtain ⟨d, third, rfl⟩ := List.exists_cons_of_ne_nil thirdKey.nonempty
  have last : readEntries? 2 (fuel + 2) ⟨2, d :: (third ++ ':' :: ' ' :: three)⟩ =
      some ([(⟨true, d :: third⟩, .scalar right)], true, ⟨0, []⟩) :=
    read_entries_last thirdKey rightReads
  have next : readEntries? 2 (fuel + 3) ⟨2, c :: (second ++ ':' :: ' ' :: (two ++
        (List.replicate 2 ' ' ++ d :: (third ++ ':' :: ' ' :: three))))⟩ =
      some ([(⟨true, c :: second⟩, .scalar middle), (⟨true, d :: third⟩, .scalar right)],
        true, ⟨0, []⟩) := by
    rw [← List.cons_append,
      read_entries_next secondKey middleReads (thirdKey.characters d (by simp)), last]
    rfl
  rw [nestedLines, List.cons_append, List.cons_append,
    read_entries_next firstKey leftReads (secondKey.characters c (by simp)), next]
  rfl

theorem read_outer_lines (fuel : Nat) {inner : List Char} {entries : List (Scalar × Node)}
    (firstKey : IsKeyText first) (secondKey : IsKeyText second) (thirdKey : IsKeyText third)
    (innerKey : IsKeyText inner) (leftReads : ReadsAs 0 (one ++ ['\n']) left)
    (middleReads : ReadsAs 0 (two ++ ['\n']) middle)
    (starts : nested = inner ++ ':' :: ' ' :: three)
    (read : readEntries? 2 (fuel + 4) ⟨2, nested⟩ = some (entries, true, ⟨0, []⟩)) :
    readEntries? 0 (fuel + 8) ⟨0, outerLines first second third one two nested⟩ =
      some ([(⟨true, first⟩, .scalar left), (⟨true, second⟩, .scalar middle),
        (⟨true, third⟩, .mapping entries)], true, ⟨0, []⟩) := by
  subst starts
  obtain ⟨c, second, rfl⟩ := List.exists_cons_of_ne_nil secondKey.nonempty
  obtain ⟨d, third, rfl⟩ := List.exists_cons_of_ne_nil thirdKey.nonempty
  have last : readEntries? 0 (fuel + 6) ⟨0, d :: (third ++ ':' :: '\n' ::
        (List.replicate 2 ' ' ++ (inner ++ ':' :: ' ' :: three)))⟩ =
      some ([(⟨true, d :: third⟩, .mapping entries)], true, ⟨0, []⟩) :=
    read_entries_nested thirdKey innerKey (by decide) rfl read
  have next : readEntries? 0 (fuel + 7) ⟨0, c :: (second ++ ':' :: ' ' :: (two ++ ['\n'] ++
        (List.replicate 0 ' ' ++ d :: (third ++ ':' :: '\n' ::
          (List.replicate 2 ' ' ++ (inner ++ ':' :: ' ' :: three))))))⟩ =
      some ([(⟨true, c :: second⟩, .scalar middle), (⟨true, d :: third⟩, .mapping entries)],
        true, ⟨0, []⟩) := by
    rw [← List.cons_append,
      read_entries_next secondKey middleReads (thirdKey.characters d (by simp)), last]
    rfl
  rw [outerLines, List.cons_append, List.cons_append,
    read_entries_next firstKey leftReads (secondKey.characters c (by simp)), next]
  rfl

theorem spaces_printable (count : Nat) : ∀ c ∈ List.replicate count ' ', isPrintable c = true := by
  intro c member
  rw [List.eq_of_mem_replicate member]
  rfl

theorem nested_lines_printable (firstKey : IsKeyText first) (secondKey : IsKeyText second)
    (thirdKey : IsKeyText third) (onePrintable : ∀ c ∈ one, isPrintable c = true)
    (twoPrintable : ∀ c ∈ two, isPrintable c = true)
    (threePrintable : ∀ c ∈ three, isPrintable c = true) :
    ∀ c ∈ nestedLines first second third one two three, isPrintable c = true := by
  have marks : isPrintable ':' = true ∧ isPrintable ' ' = true ∧ isPrintable '\n' = true := by
    decide
  simp only [nestedLines, List.forall_mem_append, List.forall_mem_cons]
  exact ⟨firstKey.printable, marks.1, marks.2.1, ⟨onePrintable, marks.2.2, by simp⟩,
    spaces_printable 2, secondKey.printable, marks.1, marks.2.1, twoPrintable,
    spaces_printable 2, thirdKey.printable, marks.1,
    marks.2.1, threePrintable⟩

theorem outer_lines_printable (firstKey : IsKeyText first) (secondKey : IsKeyText second)
    (thirdKey : IsKeyText third) (onePrintable : ∀ c ∈ one, isPrintable c = true)
    (twoPrintable : ∀ c ∈ two, isPrintable c = true)
    (nestedPrintable : ∀ c ∈ nested, isPrintable c = true) :
    ∀ c ∈ outerLines first second third one two nested, isPrintable c = true := by
  have marks : isPrintable ':' = true ∧ isPrintable ' ' = true ∧ isPrintable '\n' = true := by
    decide
  simp only [outerLines, List.forall_mem_append, List.forall_mem_cons]
  exact ⟨firstKey.printable, marks.1, marks.2.1, ⟨onePrintable, marks.2.2, by simp⟩,
    spaces_printable 0, secondKey.printable, marks.1, marks.2.1,
    ⟨twoPrintable, marks.2.2, by simp⟩,
    spaces_printable 0, thirdKey.printable, marks.1, marks.2.2,
    spaces_printable 2, nestedPrintable⟩

end Lines

end Yaml

namespace ResolverConfig

open Yaml

variable {config : ResolverConfig}

def plainEntries (fields : List (String × Node)) : List (Scalar × Node) :=
  fields.map fun field => (⟨true, field.1.toList⟩, field.2)

def overrideFields (config : ResolverConfig) : List (String × Node) :=
  [("max_depth", .scalar ⟨true, Nat.toDigits 10 config.maxDepth⟩),
    ("format_function", .scalar
      ⟨styleOf config.formatFunction.toList = .plain, config.formatFunction.toList⟩),
    ("join_function", .scalar
      ⟨styleOf config.joinFunction.toList = .plain, config.joinFunction.toList⟩)]

def documentFields (config : ResolverConfig) : List (String × Node) :=
  [("version", .scalar ⟨true, ['1']⟩), ("preset", .scalar ⟨true, "custom".toList⟩),
    ("resolver", .mapping (plainEntries (overrideFields config)))]

def documentText (config : ResolverConfig) : List Char :=
  outerLines "version".toList "preset".toList "resolver".toList ['1'] "custom".toList
    (nestedLines "max_depth".toList "format_function".toList "join_function".toList
      (Nat.toDigits 10 config.maxDepth) (writeScalar config.formatFunction.toList)
      (writeScalar config.joinFunction.toList))

/-- The document is put together from its lines, whatever they hold. -/
theorem to_list_of_pieces {opening depthKey depth line formatKey format joinKey join : String}
    {version preset resolver one custom maximum formatting joining digits two three : List Char}
    (opened : opening.toList = version ++ (':' :: ' ' :: (one ++ '\n' :: (preset ++ ':' :: ' ' ::
      (custom ++ '\n' :: (resolver ++ [':', '\n']))))))
    (first : depthKey.toList = List.replicate 2 ' ' ++ (maximum ++ [':', ' ']))
    (number : depth.toList = digits) (feed : line.toList = ['\n'])
    (second : formatKey.toList = List.replicate 2 ' ' ++ (formatting ++ [':', ' ']))
    (middle : format.toList = two)
    (third : joinKey.toList = List.replicate 2 ' ' ++ (joining ++ [':', ' ']))
    (last : join.toList = three) :
    (opening ++ (depthKey ++ depth ++ line) ++ formatKey ++ format ++ joinKey ++ join).toList =
      outerLines version preset resolver one custom
        (nestedLines maximum formatting joining digits two three) := by
  simp only [String.toList_append, opened, first, number, feed, second, middle, third, last,
    outerLines, nestedLines, List.append_assoc, List.cons_append, List.nil_append,
    List.replicate_zero]

theorem render_to_list (config : ResolverConfig) :
    (renderYaml config).toList = documentText config :=
  to_list_of_pieces (by decide +kernel) (by decide +kernel) String.toList_ofList
    (by decide +kernel) (by decide +kernel) String.toList_ofList (by decide +kernel)
    String.toList_ofList

theorem key_char_of_digit {c : Char} (digit : c.isDigit = true) : isKeyChar c = true := by
  simp [isKeyChar, digit]

theorem depth_characters (n : Nat) : ∀ c ∈ Nat.toDigits 10 n, isKeyChar c = true :=
  fun c member => key_char_of_digit (Text.digits_of_nat c member)

/-- The document of a configuration holds its fields. -/
theorem parse_rendered (config : ResolverConfig) :
    Yaml.parse? (renderYaml config) = some (plainEntries (documentFields config)) := by
  have version : IsKeyText "version".toList :=
    is_key_text (by decide) (by decide +kernel) (by decide +kernel)
  have preset : IsKeyText "preset".toList :=
    is_key_text (by decide) (by decide +kernel) (by decide +kernel)
  have resolver : IsKeyText "resolver".toList :=
    is_key_text (by decide) (by decide +kernel) (by decide +kernel)
  have maximum : IsKeyText "max_depth".toList :=
    is_key_text (by decide) (by decide +kernel) (by decide +kernel)
  have format : IsKeyText "format_function".toList :=
    is_key_text (by decide) (by decide +kernel) (by decide +kernel)
  have join : IsKeyText "join_function".toList :=
    is_key_text (by decide) (by decide +kernel) (by decide +kernel)
  have custom : ∀ c ∈ "custom".toList, isKeyChar c = true :=
    List.all_eq_true.mp (by decide +kernel : "custom".toList.all isKeyChar = true)
  have one : ∀ c ∈ ['1'], isKeyChar c = true := List.all_eq_true.mp rfl
  have depth := depth_characters config.maxDepth
  have depthReads : ReadsAs 2 (Nat.toDigits 10 config.maxDepth ++ ['\n'])
      ⟨true, Nat.toDigits 10 config.maxDepth⟩ :=
    reads_as_plain (allows_plain_of_key_chars Nat.toDigits_ne_nil depth)
  have nested (fuel : Nat) := read_nested_lines fuel maximum format join depthReads
    (reads_as_written config.formatFunction.toList)
    (reads_as_written config.joinFunction.toList)
  have nestedPrintable := nested_lines_printable maximum format join
    (fun c member => printable_of_key_char (depth c member))
    (write_scalar_printable config.formatFunction.toList)
    (write_scalar_printable config.joinFunction.toList)
  have printable : ∀ c ∈ documentText config, isPrintable c = true :=
    outer_lines_printable version preset resolver
      (fun c member => printable_of_key_char (one c member))
      (fun c member => printable_of_key_char (custom c member)) nestedPrintable
  have read : ∀ fuel, readEntries? 0 (fuel + 8) ⟨0, documentText config⟩ =
      some (plainEntries (documentFields config), true, ⟨0, []⟩) := fun fuel =>
    read_outer_lines fuel version preset resolver maximum
      (reads_as_plain (allows_plain_of_key_chars (by decide) one))
      (reads_as_plain (allows_plain_of_key_chars (by decide) custom)) rfl (nested fuel)
  have long : 3 ≤ (documentText config).length := by
    rw [documentText, outerLines]
    simp only [List.length_append, List.length_cons]
    omega
  rw [← render_to_list] at printable read long
  exact parse_mapping printable version (render_to_list config) long read

/-! ## Reading the entries -/

theorem digits_not_padded (n : Nat) : Plain.isZeroPadded (Nat.toDigits 10 n) = false := by
  have digits := @Text.digits_of_nat n
  have head := Text.head_to_digits n
  generalize Nat.toDigits 10 n = text at digits head
  have signless : Plain.dropSign text = text := by
    unfold Plain.dropSign
    split
    · exact absurd (digits '+' (by simp)) (by decide)
    · exact absurd (digits '-' (by simp)) (by decide)
    · rfl
  rw [Plain.isZeroPadded, signless]
  split
  · simp at head
  · rfl

theorem natural_to_digits (n : Nat) : Plain.natural? (Nat.toDigits 10 n) = some n := by
  have digits := @Text.digits_of_nat n
  have value := Text.read_numeral_to_digits n
  have padding := digits_not_padded n
  generalize Nat.toDigits 10 n = text at digits value padding
  have magnitude : Plain.magnitude? text = some n := by
    unfold Plain.magnitude?
    split
    · exact absurd (digits 'x' (by simp)) (by decide)
    · exact absurd (digits 'o' (by simp)) (by decide)
    · exact absurd (digits 'b' (by simp)) (by decide)
    · rw [if_neg (by simp [padding]), value]
  unfold Plain.natural?
  split
  · exact absurd (digits '+' (by simp)) (by decide)
  · exact magnitude

/-- Digits are not null. -/
theorem digits_not_null (n : Nat) : Plain.isNull (Nat.toDigits 10 n) = false := by
  have digits := @Text.digits_of_nat n
  have nonempty : Nat.toDigits 10 n ≠ [] := Nat.toDigits_ne_nil
  generalize Nat.toDigits 10 n = text at digits nonempty
  have noneDigits : ["", "~", "null", "Null", "NULL"].all (fun name =>
      name.toList.isEmpty || name.toList.any (!Char.isDigit ·)) = true := by
    decide +kernel
  simp only [Plain.isNull, decide_eq_false_iff_not]
  intro member
  have other := List.all_eq_true.mp noneDigits _ member
  rw [String.toList_ofList, Bool.or_eq_true, List.isEmpty_iff, List.any_eq_true] at other
  rcases other with empty | ⟨c, among, noDigit⟩
  · exact nonempty empty
  · rw [digits c among] at noDigit
    exact Bool.false_ne_true noDigit

/-- A text that is written plain does not read as null. -/
theorem written_not_null (text : List Char) :
    (decide (styleOf text = .plain) && Plain.isNull text) = false := by
  rcases style_cases text with ⟨style, typed, -⟩ | ⟨style, -⟩ | style | ⟨style, -⟩
  · have untyped : Plain.isNull text = false := by
      simp only [Plain.isTyped, Bool.or_eq_false_iff] at typed
      exact typed.1.1.1.1
    rw [untyped, Bool.and_false]
  all_goals rw [style]; rfl

theorem known_plain_entries {keys : List String} {fields : List (String × Node)}
    (known : ((fields.map (·.1)).all (· ∈ keys) && (fields.map (·.1)).Nodup) = true) :
    knownEntries? keys (plainEntries fields) = some fields := by
  have named : (plainEntries fields).map
      (fun entry => (String.ofList entry.1.text, entry.2)) = fields := by
    simp [plainEntries, Function.comp_def]
  rw [knownEntries?, named]
  exact if_pos known

theorem optional_field_scalar {α : Type} {decode? : Scalar → Option α}
    {entries : List (String × Node)} {key : String} {value : Scalar} {result : α}
    (found : entries.lookup key = some (.scalar value))
    (present : (value.plain && Plain.isNull value.text) = false)
    (decoded : decode? value = some result) :
    optionalField? decode? entries key = some (some result) := by
  rw [optionalField?, found]
  simp only [present, Bool.false_eq_true, if_false, decoded, Option.map_some]

theorem scalar_text_to_list (plain : Bool) (content : String) :
    scalarText? ⟨plain, content.toList⟩ = some content := by
  rw [scalarText?, String.ofList_toList]

/-- The overrides that the document of a configuration gives are its fields. -/
theorem overrides_of_fields (config : ResolverConfig) (word : config.maxDepth < depthLimit) :
    Overrides.ofEntries? (plainEntries (overrideFields config)) =
      some ⟨some config.maxDepth, some config.formatFunction, some config.joinFunction⟩ := by
  have known : knownEntries? ["max_depth", "format_function", "join_function"]
      (plainEntries (overrideFields config)) = some (overrideFields config) :=
    known_plain_entries (by decide +kernel :
      (["max_depth", "format_function", "join_function"].all
        (· ∈ ["max_depth", "format_function", "join_function"]) &&
          ["max_depth", "format_function", "join_function"].Nodup) = true)
  have depth : optionalField? (scalarBelow? depthLimit) (overrideFields config) "max_depth" =
      some (some config.maxDepth) := by
    have found : (overrideFields config).lookup "max_depth" =
        some (.scalar ⟨true, Nat.toDigits 10 config.maxDepth⟩) := rfl
    apply optional_field_scalar found
    · exact digits_not_null config.maxDepth
    · simp [scalarBelow?, Plain.natBelow?, natural_to_digits, word]
  have format : optionalField? scalarText? (overrideFields config) "format_function" =
      some (some config.formatFunction) :=
    optional_field_scalar rfl (written_not_null _) (scalar_text_to_list _ config.formatFunction)
  have join : optionalField? scalarText? (overrideFields config) "join_function" =
      some (some config.joinFunction) :=
    optional_field_scalar rfl (written_not_null _) (scalar_text_to_list _ config.joinFunction)
  rw [Overrides.ofEntries?, known]
  simp only [Option.bind_eq_bind, Option.bind_some, depth, format, join]

/-- The document of a configuration gives every field. -/
theorem document_of_rendered (config : ResolverConfig) (word : config.maxDepth < depthLimit) :
    Document.parse? (renderYaml config) = some
      ⟨supportedVersion, Preset.custom.name,
        some config.maxDepth, some config.formatFunction, some config.joinFunction⟩ := by
  have known : knownEntries? ["version", "preset", "resolver"]
      (plainEntries (documentFields config)) = some (documentFields config) :=
    known_plain_entries (by decide +kernel :
      (["version", "preset", "resolver"].all (· ∈ ["version", "preset", "resolver"]) &&
        ["version", "preset", "resolver"].Nodup) = true)
  have version : Document.version? (documentFields config) = some supportedVersion :=
    (rfl : _ = scalarBelow? versionLimit ⟨true, ['1']⟩).trans (by decide +kernel)
  have preset : Document.preset? (documentFields config) = some Preset.custom.name :=
    (rfl : _ = scalarText? ⟨true, "custom".toList⟩).trans (scalar_text_to_list true "custom")
  have overrides : Document.overrides? (documentFields config) = _ :=
    (rfl : _ = Overrides.ofEntries? (plainEntries (overrideFields config))).trans
      (overrides_of_fields config word)
  rw [Document.parse?, parse_rendered]
  simp only [Option.bind_eq_bind, Option.bind_some, known, version, preset, overrides]

/-- Reading the document of a configuration gives the configuration if it is
valid, and otherwise the reason why it is not. Depths are words, as in every
document; the patterns may be any texts. -/
theorem yaml_round_trip (config : ResolverConfig) (word : config.maxDepth < depthLimit) :
    (config.validate = .ok () → parseYaml (renderYaml config) = .ok config) ∧
      ∀ error, config.validate = .error error → parseYaml (renderYaml config) = .error error := by
  have custom : Preset.ofName? Preset.custom.name = some .custom := by decide +kernel
  have whole : parseYaml (renderYaml config) = config.validate.bind fun _ => .ok config := by
    rw [parseYaml, document_of_rendered config word]
    simp only [Document.toConfig, custom, ne_eq, not_true_eq_false, if_false]
    rfl
  constructor
  · intro valid
    rw [whole, valid]
    rfl
  · intro error invalid
    rw [whole, invalid]
    rfl

/-- A pattern of several lines with quotes, a colon and a number sign, and one that
looks like a number. -/
def knotted : ResolverConfig :=
  { maxDepth := 7, formatFunction := " a: 'b' #c\n\u2028 \td.F\n", joinFunction := "1.5" }

theorem knotted_read_back :
    knotted.maxDepth < depthLimit ∧ parseYaml (renderYaml knotted) = .ok knotted ∧
      parseYaml (renderYaml { knotted with maxDepth := 0 }) =
        .error (.range "max_depth" "0" 1 1000 "Recursion depth must be at least 1") :=
  ⟨by decide, (yaml_round_trip knotted (by decide)).1 (by decide +kernel),
    (yaml_round_trip { knotted with maxDepth := 0 } (by decide)).2 _ (by decide +kernel)⟩

end ResolverConfig

end LiteralFlow
