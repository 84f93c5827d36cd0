import LiteralFlow.Proofs.Graph.Rearrangement

/-!
Every decoder of a graph gives the same for a document and for a rearranged one
that it can read.
-/

namespace LiteralFlow

open Json (Fields)

namespace Presentation

theorem null_default {α : Type} {decode : Json → Option α} {value : Option α} (json : Json)
    (null : some Json.null = some json) (decoded : json.nullable? decode = some value) :
    value = none := by
  cases null
  exact (Option.some.inj decoded).symm

theorem text_default {value : String} (json : Json) (empty : some (Json.text "") = some json)
    (decoded : json.text? = some value) : value = "" := by
  cases empty
  exact (Option.some.inj decoded).symm

theorem list_default {α : Type} {decode : Nat → Json → Option α} {room : Nat} {value : List α}
    (json : Json) (empty : some (Json.array []) = some json)
    (decoded : json.list? decode room = some value) : value = [] := by
  cases empty
  cases room with
  | zero => cases decoded
  | succ room => exact (Option.some.inj decoded).symm

theorem span_carried {kept : Bool} {room : Nat} {value : Span} :
    Carried kept room .span (Span.decode? room) (Span.decode? room) value := by
  intro json json' rearranged admitted decoded
  cases room with
  | zero => cases decoded
  | succ room =>
      simp only [Span.decode?, Option.bind_eq_bind, Option.bind_eq_some_iff] at decoded ⊢
      obtain ⟨fields, read, startLine, first, startColumn, second, endLine, third, endColumn,
        fourth, same⟩ := decoded
      obtain ⟨fields', read', agrees⟩ := rearranged.agrees rfl rfl (by decide) read admitted
      simp only [List.forall_mem_cons] at agrees
      obtain ⟨first', second', third', fourth', -⟩ := agrees
      exact ⟨fields', read', startLine, first'.required rfl carried_plain first,
        startColumn, second'.required rfl carried_plain second,
        endLine, third'.required rfl carried_plain third,
        endColumn, fourth'.required rfl carried_plain fourth, same⟩

theorem method_carried {kept : Bool} {room : Nat} {value : MethodRef} :
    Carried kept room .method (MethodRef.decode? room) (MethodRef.decode? room) value := by
  intro json json' rearranged admitted decoded
  cases room with
  | zero => cases decoded
  | succ room =>
      simp only [MethodRef.decode?, Option.bind_eq_bind, Option.bind_eq_some_iff] at decoded ⊢
      obtain ⟨fields, read, name, named, package, packaged, same⟩ := decoded
      obtain ⟨fields', read', agrees⟩ := rearranged.agrees rfl rfl (by decide) read admitted
      simp only [List.forall_mem_cons] at agrees
      obtain ⟨named', packaged', -⟩ := agrees
      exact ⟨fields', read', name, named'.required rfl carried_plain named,
        package, packaged'.optional null_default carried_plain packaged, same⟩

/-- A chain of origins is carried from its end on. -/
theorem function_carried {kept : Bool} {room : Nat} {value : FunctionRef} :
    Carried kept room .function (FunctionRef.decode? room) (FunctionRef.decode? room) value := by
  induction room generalizing value with
  | zero =>
      intro json json' rearranged admitted decoded
      cases decoded
  | succ room induction =>
      intro json json' rearranged admitted decoded
      simp only [FunctionRef.decode?, Option.bind_eq_bind, Option.bind_eq_some_iff] at decoded ⊢
      obtain ⟨fields, read, name, named, package, packaged, receiver, received, origin, derived,
        same⟩ := decoded
      obtain ⟨fields', read', agrees⟩ := rearranged.agrees rfl rfl (by decide) read admitted
      simp only [List.forall_mem_cons] at agrees
      obtain ⟨named', packaged', received', derived', -⟩ := agrees
      exact ⟨fields', read', name, named'.required rfl carried_plain named,
        package, packaged'.optional null_default carried_plain packaged,
        receiver, received'.optional null_default carried_plain received,
        origin, derived'.optional null_default
          (carried_nullable fun _ => induction) derived, same⟩

/-! ## Alternatives -/

theorem nothing_carried {kept kept' : Bool} {content : Json}
    (admitted : kept' = true ∨ content ≠ .object [])
    (decoded : decodeNothing? kept content = some ()) :
    decodeNothing? kept' content = some () := by
  unfold decodeNothing? at decoded ⊢
  split at decoded
  · rfl
  · rcases admitted with rfl | other
    · rfl
    · exact absurd rfl other
  · cases decoded

theorem content_admitted {kept : Bool} {room : Nat} {key : Option String} {content : Json}
    (admitted : admits kept room .choice (.object [(key, content)]) = true) :
    kept = true ∨ content ≠ .object [] := by
  rw [admits_choice, Bool.or_eq_true] at admitted
  rcases admitted with kept | ordinary
  · exact Or.inl kept
  · refine Or.inr fun same => ?_
    rw [same] at ordinary
    cases ordinary

theorem literal_carried {kept kept' : Bool} {room : Nat} {value : Literal} :
    Carried kept' room .choice (Literal.decode? kept room) (Literal.decode? kept' room) value := by
  intro json json' rearranged admitted decoded
  cases rearranged.eq_of_leaf (Or.inr rfl)
  unfold Literal.decode? at decoded ⊢
  split at decoded
  · exact decoded
  · unfold Literal.decodeAs? at decoded ⊢
    split at decoded
    all_goals try exact decoded
    obtain ⟨⟨⟩, empty, same⟩ := Option.map_eq_some_iff.mp decoded
    rw [nothing_carried (content_admitted admitted) empty]
    exact congrArg some same
  · cases decoded

theorem operator_carried {kept kept' : Bool} {room : Nat} {value : BinaryOp} :
    Carried kept' room .choice (BinaryOp.decode? kept room) (BinaryOp.decode? kept' room)
      value := by
  intro json json' rearranged admitted decoded
  cases rearranged.eq_of_leaf (Or.inr rfl)
  unfold BinaryOp.decode? at decoded ⊢
  split at decoded
  · exact decoded
  · simp only [Option.bind_eq_bind, Option.bind_eq_some_iff] at decoded ⊢
    obtain ⟨⟨⟩, empty, same⟩ := decoded
    exact ⟨(), nothing_carried (content_admitted admitted) empty, same⟩
  · cases decoded

theorem mode_name_carried {kept kept' : Bool} {room : Nat} {value : String} :
    Carried kept' room .choice (CallMode.tag? kept) (CallMode.tag? kept') value := by
  intro json json' rearranged admitted decoded
  cases rearranged.eq_of_leaf (Or.inr rfl)
  unfold CallMode.tag? at decoded ⊢
  split at decoded
  · exact decoded
  · rw [admits_choice, isOrdinary, Bool.or_false] at admitted
    cases kept with
    | false => cases decoded
    | true => rwa [admitted]
  · cases decoded

/-! ## Records with a name -/

theorem leading_of_values {key : String} {keys : List String} {json value : Json} {fields : Fields}
    (read : json.recordFields? (key :: keys) = some fields) (only : fields.valuesOf key = [value]) :
    leading? key json = some value := by
  cases json with
  | object members =>
      have same : Json.objectFields? (.object members) = some fields := read
      rw [leading?, same, Option.bind_some, only]
      · rfl
      · intro first others other
        cases other
  | array items =>
      simp only [Json.recordFields?] at read
      split at read
      · cases read
        cases items with
        | nil => cases only
        | cons first items =>
            rw [List.zip_cons_cons, Fields.valuesOf, List.filterMap_cons] at only
            simp only [if_true, List.cons.injEq] at only
            rw [leading?, only.1]
      · cases read
  | _ => cases read

/-- The name of a record stays what it is. -/
theorem leading_carried {part leaf : Part} {key : String} {members : List Member}
    {json json' value : Json} {fields : Fields} (rearranged : Rearranged part json json')
    (known : part.members? json = some (⟨key, leaf, none⟩ :: members))
    (distinct : ((⟨key, leaf, none⟩ :: members : List Member).map Member.key).Nodup)
    (endOf : leaf = .plain ∨ leaf = .choice)
    (read : json.recordFields? (key :: members.map Member.key) = some fields)
    (only : fields.valuesOf key = [value]) : leading? key json' = some value := by
  obtain ⟨fields', read', found⟩ := rearranged.fields known distinct read
  rcases (found _ (.head _)).present value only with ⟨value', only', rearranged⟩ | ⟨default, -⟩
  · rw [rearranged.eq_of_leaf endOf] at only'
    exact leading_of_values read' only'
  · cases default

theorem eq_of_required {α : Type} {fields : Fields} {key : String} {decode : Json → Option α}
    {value : α} (read : fields.required? key decode = some value) :
    ∃ json, fields.valuesOf key = [json] ∧ decode json = some value := by
  rw [Fields.required?] at read
  split at read
  · rename_i json only
    exact ⟨json, only, read⟩
  · cases read

/-! ## Call modes -/

theorem mode_not_mem_keys (tag : String) : "mode" ∉ CallMode.keysOf tag := by
  unfold CallMode.keysOf
  split <;> decide

theorem mode_members_keys (tag : String) :
    (Part.ofMode tag).map Member.key = CallMode.keysOf tag := by
  unfold CallMode.keysOf
  split
  · rfl
  · rfl
  · rw [Part.ofMode]
    · rfl
    · assumption
    · assumption

theorem mode_members_distinct (tag : String) :
    ((⟨"mode", .choice, none⟩ :: Part.ofMode tag : List Member).map Member.key).Nodup := by
  rw [List.map_cons, mode_members_keys]
  unfold CallMode.keysOf
  split <;> decide

theorem mode_of_others (room : Nat) (tag : String) (fields : Fields) :
    CallMode.ofFields? room tag (fields.filter fun (key, _) => key ≠ "mode") =
      CallMode.ofFields? room tag fields := by
  have values (key : String) (other : key ≠ "mode") :
      Fields.valuesOf (fields.filter fun (key, _) => key ≠ "mode") key = fields.valuesOf key :=
    @Fields.values_of_filter (fun key => key ≠ "mode") key (decide_eq_true other) fields
  simp only [CallMode.ofFields?, Fields.required?, values "callee" (by decide),
    values "receiver" (by decide), values "method" (by decide)]

/-- The items behind the name of a mode are its members. -/
theorem mode_others_of_items (tag : String) (first : Json) (items : List Json) :
    List.filter (fun (key, _) => key ≠ "mode")
      ((("mode", first) :: (CallMode.keysOf tag).zip items : Fields)) =
        (CallMode.keysOf tag).zip items := by
  rw [List.filter_cons_of_neg (by simp), List.filter_eq_self]
  intro entry found
  apply decide_eq_true
  intro same
  exact mode_not_mem_keys tag (same ▸ (List.of_mem_zip found).1)

theorem mode_name_of_items (tag : String) (first : Json) (items : List Json) :
    Fields.valuesOf (("mode", first) :: (CallMode.keysOf tag).zip items) "mode" = [first] := by
  have noneOther : Fields.valuesOf ((CallMode.keysOf tag).zip items) "mode" = [] := by
    apply Fields.values_of_eq_nil
    intro entry found same
    exact mode_not_mem_keys tag (same ▸ (List.of_mem_zip found).1)
  rw [Fields.valuesOf] at noneOther ⊢
  rw [List.filterMap_cons, noneOther]
  rfl

/-- A mode is read as a record whose keys depend on its name. -/
theorem mode_decode_iff {kept : Bool} {room : Nat} {json : Json} {mode : CallMode} :
    CallMode.decode? kept (room + 1) json = some mode ↔
      ∃ tag fields, json.recordFields? ("mode" :: CallMode.keysOf tag) = some fields ∧
        fields.required? "mode" (CallMode.tag? kept) = some tag ∧
        (kept || (fields.filter fun (key, _) => key ≠ "mode").all fun (_, value) =>
          value.isKeepable room) = true ∧
        CallMode.ofFields? room tag fields = some mode := by
  cases json with
  | object members =>
      simp only [CallMode.decode?, Json.recordFields?, Option.bind_eq_bind, Option.bind_eq_some_iff,
        Option.ite_none_right_eq_some, mode_of_others]
      constructor
      · rintro ⟨fields, read, tag, named, keepable, decoded⟩
        exact ⟨tag, fields, read, named, keepable, decoded⟩
      · rintro ⟨tag, fields, read, named, keepable, decoded⟩
        exact ⟨fields, read, tag, named, keepable, decoded⟩
  | array items =>
      cases items with
      | nil => simp [CallMode.decode?, Json.recordFields?, Fields.required?, Fields.valuesOf]
      | cons first items =>
          have keepable (tag : String) (short : items.length ≤ (CallMode.keysOf tag).length) :
              (((CallMode.keysOf tag).zip items).all fun (_, value) => value.isKeepable room) =
                items.all (Json.isKeepable room) := by
            conv_rhs => rw [← List.map_snd_zip short, List.all_map]
            rfl
          have members (tag : String) : CallMode.ofFields? room tag
              (("mode", first) :: (CallMode.keysOf tag).zip items) =
                CallMode.ofFields? room tag ((CallMode.keysOf tag).zip items) := by
            rw [← mode_of_others, mode_others_of_items]
          simp only [CallMode.decode?, Json.recordFields?, Option.bind_eq_bind,
            Option.bind_eq_some_iff, Option.ite_none_right_eq_some, Bool.and_eq_true,
            decide_eq_true_eq, List.zip_cons_cons, List.length_cons, Nat.add_le_add_iff_right,
            Option.some.injEq]
          constructor
          · rintro ⟨tag, named, ⟨short, kept⟩, decoded⟩
            refine ⟨tag, _, ⟨short, rfl⟩, ?_, ?_, ?_⟩
            · rw [Fields.required?, mode_name_of_items]
              exact named
            · rw [mode_others_of_items, keepable tag short]
              exact kept
            · rw [members]
              exact decoded
          · rintro ⟨tag, _, ⟨short, rfl⟩, named, kept, decoded⟩
            rw [Fields.required?, mode_name_of_items] at named
            rw [mode_others_of_items, keepable tag short] at kept
            rw [members] at decoded
            exact ⟨tag, named, ⟨short, kept⟩, decoded⟩
  | _ => simp [CallMode.decode?, Json.recordFields?]

theorem mode_name_kept {kept : Bool} {json : Json} {tag : String}
    (named : CallMode.tag? kept json = some tag) : CallMode.tag? true json = some tag := by
  unfold CallMode.tag? at named ⊢
  split at named
  · exact named
  · split at named
    · exact named
    · cases named
  · cases named

theorem mode_members {kept : Bool} {json value : Json} {tag : String}
    (leading : leading? "mode" json = some value) (named : CallMode.tag? kept value = some tag) :
    Part.members? .mode json = some (⟨"mode", .choice, none⟩ :: Part.ofMode tag) := by
  rw [Part.members?, leading, Option.bind_some, mode_name_kept named]
  rfl

theorem mode_fields_carried {kept : Bool} {room : Nat} {tag : String} {fields fields' : Fields}
    {value : CallMode} (agrees : ∀ member ∈ Part.ofMode tag, Agrees kept room member fields fields')
    (decoded : CallMode.ofFields? room tag fields = some value) :
    CallMode.ofFields? room tag fields' = some value := by
  unfold CallMode.ofFields? at decoded ⊢
  split at decoded
  · simp only [Option.bind_eq_bind, Option.bind_eq_some_iff] at decoded ⊢
    obtain ⟨callee, called, same⟩ := decoded
    exact ⟨callee, (agrees _ (.head _)).required rfl carried_plain called, same⟩
  · simp only [Option.bind_eq_bind, Option.bind_eq_some_iff] at decoded ⊢
    obtain ⟨receiver, received, method, called, same⟩ := decoded
    exact ⟨receiver, (agrees _ (.head _)).required rfl carried_plain received,
      method, (agrees _ (.tail _ (.head _))).required rfl method_carried called, same⟩
  · cases decoded

theorem are_keepable_iff {room : Nat} {items : List Json} :
    Json.areKeepable room items = true ↔ ∀ item ∈ items, item.isKeepable room = true := by
  induction items with
  | nil => simp [Json.areKeepable]
  | cons item items induction =>
      rw [Json.areKeepable, Bool.and_eq_true, induction, List.forall_mem_cons]

theorem are_keepable_members_iff {room : Nat} {members : List (Option String × Json)} :
    Json.areKeepableMembers room members = true ↔
      ∀ member ∈ members, member.1.isSome = true ∧ member.2.isKeepable room = true := by
  induction members with
  | nil => simp [Json.areKeepableMembers]
  | cons member members induction =>
      obtain ⟨key, value⟩ := member
      rw [Json.areKeepableMembers, Bool.and_eq_true, Bool.and_eq_true, induction,
        List.forall_mem_cons]

/-- A record can be kept when its members can. -/
theorem keepable_iff_fields {room : Nat} {json : Json} {keys : List String} {fields : Fields}
    (read : json.recordFields? keys = some fields) :
    json.isKeepable (room + 1) = true ↔ ∀ entry ∈ fields, entry.2.isKeepable room = true := by
  cases json with
  | object members =>
      cases Json.record_of_fields read
      rw [Json.isKeepable, are_keepable_members_iff, List.forall_mem_map]
      simp
  | array items =>
      rw [Json.isKeepable, are_keepable_iff]
      simp only [Json.recordFields?] at read
      split at read
      · rename_i short
        cases read
        conv_lhs => rw [← List.map_snd_zip short, List.forall_mem_map]
      · cases read
  | _ => cases read

theorem mode_carried {kept kept' : Bool} {room : Nat} {value : CallMode} :
    Carried kept' room .mode (CallMode.decode? kept room) (CallMode.decode? kept' room) value := by
  intro json json' rearranged admitted decoded
  cases room with
  | zero =>
      unfold CallMode.decode? at decoded
      split at decoded <;> simp_all
  | succ room =>
      obtain ⟨tag, fields, read, named, -, decoded⟩ := mode_decode_iff.mp decoded
      obtain ⟨name, only, namedSo⟩ := eq_of_required named
      rw [← mode_members_keys] at read
      have known := mode_members (leading_of_values read only) namedSo
      have distinct := mode_members_distinct tag
      have known' := mode_members
        (leading_carried rearranged known distinct (Or.inr rfl) read only) namedSo
      obtain ⟨fields', read', agrees⟩ := rearranged.agrees known known' distinct read admitted
      have keepable := (admits_iff_fields known' distinct read').mp admitted
      refine mode_decode_iff.mpr ⟨tag, fields', ?_, ?_, ?_, ?_⟩
      · rw [← mode_members_keys]
        exact read'
      · exact (agrees _ (.head _)).required rfl mode_name_carried named
      · rw [Bool.or_eq_true, List.all_eq_true]
        exact Or.inr fun entry found =>
          (keepable_iff_fields read').mp keepable.1 entry (List.mem_filter.mp found).1
      · exact mode_fields_carried (fun member listed => agrees member (.tail _ listed)) decoded

theorem call_carried {kept kept' : Bool} {room : Nat} {value : CallSite} :
    Carried kept' room .call (CallSite.decode? kept room) (CallSite.decode? kept' room) value := by
  intro json json' rearranged admitted decoded
  cases room with
  | zero => cases decoded
  | succ room =>
      simp only [CallSite.decode?, Option.bind_eq_bind, Option.bind_eq_some_iff] at decoded ⊢
      obtain ⟨fields, read, mode, called, args, given, same⟩ := decoded
      obtain ⟨fields', read', agrees⟩ := rearranged.agrees rfl rfl (by decide) read admitted
      simp only [List.forall_mem_cons] at agrees
      obtain ⟨called', given', -⟩ := agrees
      exact ⟨fields', read', mode, called'.required rfl mode_carried called,
        args, given'.optional list_default carried_plain given, same⟩

/-! ## Kinds -/

theorem operands_carried {kept kept' : Bool} {room : Nat} {tag : String} {fields fields' : Fields}
    {value : ValueKind}
    (agrees : ∀ member ∈ Part.ofOperands tag, Agrees kept' room member fields fields')
    (decoded : ValueKind.ofFields? kept room tag fields = some value) :
    ValueKind.ofFields? kept' room tag fields' = some value := by
  unfold ValueKind.ofFields? at decoded ⊢
  split at decoded
  all_goals try simp only [Option.bind_eq_bind, Option.bind_eq_some_iff] at decoded ⊢
  · obtain ⟨op, applied, x, first, y, second, same⟩ := decoded
    exact ⟨op, (agrees _ (.head _)).required rfl operator_carried applied,
      x, (agrees _ (.tail _ (.head _))).required rfl carried_plain first,
      y, (agrees _ (.tail _ (.tail _ (.head _)))).required rfl carried_plain second, same⟩
  · obtain ⟨edges, joined, same⟩ := decoded
    exact ⟨edges, (agrees _ (.head _)).required rfl carried_plain joined, same⟩
  · obtain ⟨base, cut, low, first, high, second, same⟩ := decoded
    exact ⟨base, (agrees _ (.head _)).required rfl carried_plain cut,
      low, (agrees _ (.tail _ (.head _))).optional null_default carried_plain first,
      high, (agrees _ (.tail _ (.tail _ (.head _)))).optional null_default carried_plain second,
      same⟩
  · obtain ⟨name, named, same⟩ := decoded
    exact ⟨name, (agrees _ (.head _)).required rfl carried_plain named, same⟩
  · obtain ⟨func, closed, bindings, bound, same⟩ := decoded
    exact ⟨func, (agrees _ (.head _)).required rfl function_carried closed,
      bindings, (agrees _ (.tail _ (.head _))).optional list_default carried_plain bound, same⟩
  · obtain ⟨x, pointer, same⟩ := decoded
    exact ⟨x, (agrees _ (.head _)).required rfl carried_plain pointer, same⟩
  · obtain ⟨tuple, taken, index, counted, same⟩ := decoded
    exact ⟨tuple, (agrees _ (.head _)).required rfl carried_plain taken,
      index, (agrees _ (.tail _ (.head _))).required rfl carried_plain counted, same⟩
  · cases decoded

theorem operand_keys_distinct (tag : String) :
    ((Part.ofOperands tag).map Member.key).Nodup := by
  unfold Part.ofOperands
  split <;> decide

theorem record_of_object {json : Json} {fields : Fields}
    (read : json.objectFields? = some fields) (keys : List String) :
    json.recordFields? keys = some fields := by
  cases json with
  | object members => exact read
  | _ => cases read

theorem eq_record {json : Json} {fields : Fields} (read : json.objectFields? = some fields) :
    json = .record fields := by
  cases json with
  | object members => exact Json.record_of_fields read
  | _ => cases read

/-- Objects are rearranged to objects. -/
theorem Rearranged.object {part : Part} {json json' : Json} {fields fields' : Fields}
    (rearranged : Rearranged part json json') (read : json.objectFields? = some fields)
    {keys : List String} (read' : json'.recordFields? keys = some fields') :
    json'.objectFields? = some fields' := by
  cases rearranged with
  | same =>
      rw [record_of_object read] at read'
      rw [read, read']
  | list => cases read
  | record => exact read'
  | sequence => cases read

theorem data_carried {kept kept' : Bool} {room : Nat} {tag : String} {value : ValueKind} :
    Carried kept' room (Part.ofData tag) (ValueKind.ofData? kept room tag)
      (ValueKind.ofData? kept' room tag) value := by
  intro json json' rearranged admitted decoded
  unfold ValueKind.ofData? at decoded ⊢
  split at decoded
  · obtain ⟨literal, present, rfl⟩ := Option.map_eq_some_iff.mp decoded
    exact Option.map_eq_some_iff.mpr
      ⟨literal, literal_carried json json' rearranged admitted present, rfl⟩
  · obtain ⟨site, present, rfl⟩ := Option.map_eq_some_iff.mp decoded
    exact Option.map_eq_some_iff.mpr
      ⟨site, call_carried json json' rearranged admitted present, rfl⟩
  · obtain ⟨function, present, rfl⟩ := Option.map_eq_some_iff.mp decoded
    exact Option.map_eq_some_iff.mpr
      ⟨function, function_carried json json' rearranged admitted present, rfl⟩
  · rw [rearranged.eq_of_leaf (Or.inl rfl)]
    exact decoded
  · rw [Part.ofData] at rearranged admitted
    · cases room with
      | zero => cases decoded
      | succ room =>
          simp only [Option.bind_eq_bind, Option.bind_eq_some_iff] at decoded ⊢
          obtain ⟨fields, read, present⟩ := decoded
          obtain ⟨fields', read', agrees⟩ := rearranged.agrees rfl rfl (operand_keys_distinct tag)
            (record_of_object read _) admitted
          exact ⟨fields', rearranged.object read read', operands_carried agrees present⟩
    all_goals assumption

/-! The name and the data of a kind, in whatever order they stand. -/

theorem data_first_record (fields : Fields) :
    dataFirst (.record fields) =
      ((fields.filter fun (key, _) => key = "kind" || key = "data").head?.any
        fun (key, _) => key = "data") := by
  rw [dataFirst, Json.object_fields_record, List.head?_filter]
  rfl

theorem kind_decode_record_iff {room : Nat} {fields : Fields} {kind : ValueKind} :
    ValueKind.decode? (room + 1) (.record fields) = some kind ↔
      ∃ name tag, fields.valuesOf "kind" = [name] ∧ ValueKind.tag? room name = some tag ∧
        ((fields.valuesOf "data" = [] ∧ tag = "opaque" ∧ kind = .unmodelled) ∨
          ∃ data, fields.valuesOf "data" = [data] ∧
            (dataFirst (.record fields) = true → data.isKeepable room = true) ∧
            ValueKind.ofData? (dataFirst (.record fields)) room tag data = some kind) := by
  have names : fields.valuesOf "kind" =
      Fields.valuesOf (fields.filter fun (key, _) => key = "kind" || key = "data") "kind" :=
    (@Fields.values_of_filter (fun key => key = "kind" || key = "data") "kind" rfl fields).symm
  have contents : fields.valuesOf "data" =
      Fields.valuesOf (fields.filter fun (key, _) => key = "kind" || key = "data") "data" :=
    (@Fields.values_of_filter (fun key => key = "kind" || key = "data") "data" rfl fields).symm
  have only : ∀ entry ∈ fields.filter (fun (key, _) => key = "kind" || key = "data"),
      entry.1 = "kind" ∨ entry.1 = "data" := by
    intro entry found
    simpa using (List.mem_filter.mp found).2
  rw [names, contents, data_first_record]
  simp only [Json.record, ValueKind.decode?, Json.fields_record, Option.bind_eq_bind,
    Option.bind_some]
  generalize fields.filter (fun (key, _) => key = "kind" || key = "data") = known at only ⊢
  -- One name and at most one content are left, so more than two members are refused.
  rcases known with _ | ⟨⟨first, value⟩, _ | ⟨⟨second, other⟩, _ | ⟨⟨third, more⟩, others⟩⟩⟩
  · simp [Fields.valuesOf]
  · have one := only (first, value) (by simp)
    simp only at one
    rcases one with rfl | rfl
    · have unmodelled : some ValueKind.unmodelled = some kind ↔ kind = .unmodelled := by
        rw [Option.some.injEq, eq_comm]
      simp [Fields.valuesOf, Option.bind_eq_some_iff, unmodelled]
    · simp [Fields.valuesOf]
  · have one := only (first, value) (by simp)
    have two := only (second, other) (by simp)
    simp only at one two
    rcases one with rfl | rfl <;> rcases two with rfl | rfl
    · simp [Fields.valuesOf]
    · simp [Fields.valuesOf, Option.bind_eq_some_iff]
    · simp [Fields.valuesOf, Option.bind_eq_some_iff, and_left_comm]
    · simp [Fields.valuesOf]
  · have one := only (first, value) (by simp)
    have two := only (second, other) (by simp)
    have three := only (third, more) (by simp)
    simp only at one two three
    rcases one with rfl | rfl <;> rcases two with rfl | rfl <;> rcases three with rfl | rfl <;>
      simp [Fields.valuesOf]

theorem kind_name_short {room : Nat} {json : Json} {tag : String}
    (named : ValueKind.tag? room json = some tag) : ValueKind.tag? 1 json = some tag := by
  unfold ValueKind.tag? at named ⊢
  split at named
  · exact named
  · exact named
  · cases named

theorem kind_name_of_text {json : Json} {tag : String} (named : json.text? = some tag)
    (room : Nat) : ValueKind.tag? room json = some tag := by
  unfold Json.text? at named
  split at named
  · exact named
  · cases named

theorem kind_fields {room : Nat} {members : List (Option String × Json)} {kind : ValueKind}
    (decoded : ValueKind.decode? (room + 1) (.object members) = some kind) :
    ∃ fields, Json.fields? members = some fields := by
  simp only [ValueKind.decode?, Option.bind_eq_bind, Option.bind_eq_some_iff] at decoded
  obtain ⟨fields, read, -⟩ := decoded
  exact ⟨fields, read⟩

theorem kind_members {room : Nat} {json name : Json} {tag : String}
    (leading : leading? "kind" json = some name) (named : ValueKind.tag? room name = some tag) :
    Part.members? .kind json =
      some [⟨"kind", .plain, none⟩, ⟨"data", Part.ofData tag, none⟩] := by
  rw [Part.members?, leading, Option.bind_some, kind_name_short named]
  rfl

/-- A kind with its name and its data is read in the same way in a rearranged record. -/
theorem kind_agrees {kept : Bool} {room : Nat} {json json' name : Json} {tag : String}
    {fields : Fields} (rearranged : Rearranged .kind json json')
    (admitted : admits kept (room + 1) .kind json' = true)
    (read : json.recordFields? ["kind", "data"] = some fields)
    (only : fields.valuesOf "kind" = [name]) (named : ValueKind.tag? room name = some tag) :
    ∃ fields', json'.recordFields? ["kind", "data"] = some fields' ∧
      fields'.valuesOf "kind" = [name] ∧
      Agrees (dataFirst json') room ⟨"data", Part.ofData tag, none⟩ fields fields' := by
  have distinct : ["kind", "data"].Nodup := by decide
  have known := kind_members (leading_of_values read only) named
  have known' := kind_members
    (leading_carried rearranged known distinct (Or.inl rfl) read only) named
  obtain ⟨fields', read', agrees⟩ := rearranged.agrees known known' distinct read admitted
  simp only [List.forall_mem_cons] at agrees
  obtain ⟨named', data', -⟩ := agrees
  refine ⟨fields', read', ?_, data'⟩
  rcases named'.present name only with ⟨name', only', same⟩ | ⟨default, -⟩
  · rw [same.eq_of_leaf (Or.inl rfl)] at only'
    exact only'
  · cases default

theorem kind_record_carried {kept : Bool} {room : Nat} {fields : Fields} {json' : Json}
    {value : ValueKind} (rearranged : Rearranged .kind (.record fields) json')
    (admitted : admits kept (room + 1) .kind json' = true)
    (decoded : ValueKind.decode? (room + 1) (.record fields) = some value) :
    ValueKind.decode? (room + 1) json' = some value := by
  obtain ⟨name, tag, only, named, content⟩ := kind_decode_record_iff.mp decoded
  obtain ⟨fields', read', only', data'⟩ := kind_agrees rearranged admitted
    (Json.record_fields_record _ _) only named
  cases eq_record (rearranged.object (Json.object_fields_record _) read')
  have keepable : dataFirst (.record fields') = true → ∀ data ∈ fields'.valuesOf "data",
      data.isKeepable room = true := by
    intro first
    rw [admits.eq_def, Bool.and_eq_true] at admitted
    simpa [Part.allows, first] using admitted.1
  refine kind_decode_record_iff.mpr ⟨name, tag, only', named, ?_⟩
  rcases content with ⟨noneGiven, unmodelled, same⟩ | ⟨data, given, -, read⟩
  · exact Or.inl ⟨data'.absent noneGiven, unmodelled, same⟩
  · rcases data'.present data given with ⟨content, given', inner⟩ | ⟨default, -⟩
    · have listed : content ∈ fields'.valuesOf "data" := by simp [given']
      exact Or.inr ⟨content, given', fun first => keepable first content listed,
        data_carried data content inner (data'.admitted content listed) read⟩
    · cases default

theorem kind_items_carried {kept : Bool} {room : Nat} {items : List Json} {json' : Json}
    {value : ValueKind} (rearranged : Rearranged .kind (.array items) json')
    (admitted : admits kept (room + 1) .kind json' = true)
    (decoded : ValueKind.decode? (room + 1) (.array items) = some value) :
    ValueKind.decode? (room + 1) json' = some value := by
  obtain ⟨name, data, rfl⟩ : ∃ name data, items = [name, data] := by
    unfold ValueKind.decode? at decoded
    split at decoded <;> simp_all
  obtain ⟨name', data', rfl⟩ : ∃ name' data', json' = .array [name', data'] := by
    cases rearranged with
    | same => exact ⟨name, data, rfl⟩
    | sequence known sizes =>
        obtain ⟨name', data', rfl⟩ := List.length_eq_two.mp sizes.symm
        exact ⟨name', data', rfl⟩
  simp only [ValueKind.decode?, Option.bind_eq_bind, Option.bind_eq_some_iff] at decoded ⊢
  obtain ⟨tag, named, read⟩ := decoded
  have fields : Json.recordFields? ["kind", "data"] (.array [name, data]) =
      some [("kind", name), ("data", data)] := rfl
  obtain ⟨fields', read', only', content⟩ := kind_agrees rearranged admitted fields
    (by simp [Fields.valuesOf]) (kind_name_of_text named room)
  cases read'
  rcases content.present data (by simp [Fields.valuesOf]) with ⟨inner, given, same⟩ | ⟨default, -⟩
  · have nameSame : name' = name := by simpa [Fields.valuesOf] using only'
    have dataSame : data' = inner := by simpa [Fields.valuesOf] using given
    rw [nameSame, dataSame]
    exact ⟨tag, named, data_carried data inner same
      (content.admitted inner (by rw [given]; exact List.mem_singleton_self inner)) read⟩
  · cases default

theorem kind_carried {kept : Bool} {room : Nat} {value : ValueKind} :
    Carried kept room .kind (ValueKind.decode? room) (ValueKind.decode? room) value := by
  intro json json' rearranged admitted decoded
  cases room with
  | zero =>
      unfold ValueKind.decode? at decoded
      split at decoded <;> simp_all
  | succ room =>
      cases json with
      | object members =>
          obtain ⟨fields, read⟩ := kind_fields decoded
          rw [Json.record_of_fields read] at decoded rearranged
          exact kind_record_carried rearranged admitted decoded
      | array items => exact kind_items_carried rearranged admitted decoded
      | _ => simp [ValueKind.decode?] at decoded

theorem node_carried {kept : Bool} {room : Nat} {value : ValueNode} :
    Carried kept room .node (ValueNode.decode? room) (ValueNode.decode? room) value := by
  intro json json' rearranged admitted decoded
  cases room with
  | zero => cases decoded
  | succ room =>
      simp only [ValueNode.decode?, Option.bind_eq_bind, Option.bind_eq_some_iff] at decoded ⊢
      obtain ⟨fields, read, name, named, typeName, typed, span, spanned, kind, content, same⟩ :=
        decoded
      obtain ⟨fields', read', agrees⟩ := rearranged.agrees rfl rfl (by decide) read admitted
      simp only [List.forall_mem_cons] at agrees
      obtain ⟨named', typed', spanned', content', -⟩ := agrees
      exact ⟨fields', read', name, named'.required rfl carried_plain named,
        typeName, typed'.optional text_default carried_plain typed,
        span, spanned'.optional null_default (carried_nullable fun _ => span_carried) spanned,
        kind, content'.required rfl kind_carried content, same⟩

theorem Rearranged.items {part : Part} {items : List Json} {json' : Json}
    (rearranged : Rearranged (.list part) (.array items) json') :
    ∃ items', json' = .array items' ∧ items.length = items'.length ∧
      ∀ pair ∈ items.zip items', Rearranged part pair.1 pair.2 := by
  cases rearranged with
  | same =>
      refine ⟨items, rfl, rfl, fun pair found => ?_⟩
      rw [List.zip, List.zipWith_self] at found
      obtain ⟨item, -, rfl⟩ := List.mem_map.mp found
      exact Rearranged.same part item
  | list sizes each => exact ⟨_, rfl, sizes, each⟩
  | sequence known => cases known

theorem all_carried {α : Type} {kept : Bool} {room : Nat} {part : Part}
    {decode : Json → Option α} (carried : ∀ value, Carried kept room part decode decode value)
    {items items' : List Json} (sizes : items.length = items'.length)
    (each : ∀ pair ∈ items.zip items', Rearranged part pair.1 pair.2)
    (admitted : ∀ item ∈ items', admits kept room part item = true) {values : List α}
    (decoded : items.mapM decode = some values) : items'.mapM decode = some values := by
  induction items generalizing items' values with
  | nil =>
      cases items' with
      | nil => exact decoded
      | cons => cases sizes
  | cons item items induction =>
      cases items' with
      | nil => cases sizes
      | cons item' items' =>
          rw [List.zip_cons_cons, List.forall_mem_cons] at each
          rw [List.forall_mem_cons] at admitted
          simp only [List.mapM_cons, Option.bind_eq_bind, Option.bind_eq_some_iff] at decoded ⊢
          obtain ⟨first, here, others, later, same⟩ := decoded
          exact ⟨first, carried first item item' each.1 admitted.1 here, others,
            induction (Nat.succ.inj sizes) each.2 admitted.2 later, same⟩

theorem zip_item_parts (part : Part) (json : Json) (items : List Json) :
    ((Part.list part).itemParts json items.length).zip items =
      items.map fun item => (part, item) := by
  rw [Part.itemParts, ← List.map_const', List.zip_map_left, List.zip, List.zipWith_self,
    List.map_map]
  rfl

theorem list_carried {α : Type} {kept : Bool} {room : Nat} {part : Part}
    {decode : Nat → Json → Option α} {values : List α}
    (carried : ∀ inner value, Carried kept inner part (decode inner) (decode inner) value) :
    Carried kept room (.list part) (Json.list? decode room) (Json.list? decode room) values := by
  intro json json' rearranged admitted decoded
  unfold Json.list? at decoded
  split at decoded
  · rename_i room items
    obtain ⟨items', rfl, sizes, each⟩ := rearranged.items
    rw [admits, Bool.and_eq_true, are_admitted_iff] at admitted
    rw [Json.list?]
    apply all_carried (carried room) sizes each _ decoded
    intro item found
    apply admitted.2 (part, item)
    rw [zip_item_parts]
    exact List.mem_map_of_mem found
  · cases decoded

theorem graph_carried {kept : Bool} {room : Nat} {value : ValueGraph} :
    Carried kept room .graph (ValueGraph.decode? room) (ValueGraph.decode? room) value := by
  intro json json' rearranged admitted decoded
  cases room with
  | zero => cases decoded
  | succ room =>
      simp only [ValueGraph.decode?, Option.bind_eq_bind, Option.bind_eq_some_iff] at decoded ⊢
      obtain ⟨fields, read, function, named, nodes, listed, same⟩ := decoded
      obtain ⟨fields', read', agrees⟩ := rearranged.agrees rfl rfl (by decide) read admitted
      simp only [List.forall_mem_cons] at agrees
      obtain ⟨named', listed', -⟩ := agrees
      exact ⟨fields', read', function, named'.optional text_default carried_plain named,
        nodes, listed'.required rfl (list_carried fun _ _ => node_carried) listed, same⟩

end Presentation

end LiteralFlow
