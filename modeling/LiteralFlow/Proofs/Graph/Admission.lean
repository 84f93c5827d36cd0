import LiteralFlow.Proofs.Graph.RearrangedDecoding

/-!
Every document that a decoder takes keeps to the limits of reading, so the limits
are exactly what can refuse a rearranged document.
-/

namespace LiteralFlow

open Json (Fields)

namespace Presentation

/-- What a decoder takes is admitted, when kept data can be kept as a whole. -/
def Settled {α : Type} (kept : Bool) (room : Nat) (part : Part) (decode : Json → Option α) : Prop :=
  ∀ json value, (kept = true → json.isKeepable room = true) → decode json = some value →
    admits kept room part json = true

section

variable {α : Type} {kept : Bool} {room : Nat} {part : Part} {decode : Json → Option α}

theorem admits_null (kept : Bool) (room : Nat) (part : Part) :
    admits kept room part .null = true := by
  rw [admits.eq_def, Bool.and_true]
  cases part with
  | choice => exact Bool.or_true kept
  | _ => rfl

theorem settled_nullable (settled : Settled kept room part decode) :
    Settled kept room part (Json.nullable? decode) := by
  intro json value keepable decoded
  by_cases null : json = .null
  · rw [null]
    exact admits_null kept room part
  · rw [Json.nullable?] at decoded
    · obtain ⟨inner, present, -⟩ := Option.map_eq_some_iff.mp decoded
      exact settled json inner keepable present
    · exact null

variable {fields : Fields} {key : String}

theorem settled_required {value : α} (settled : Settled kept room part decode)
    (keepable : kept = true → ∀ entry ∈ fields, entry.2.isKeepable room = true)
    (read : fields.required? key decode = some value) :
    ∀ json ∈ fields.valuesOf key, admits kept room part json = true := by
  obtain ⟨json, only, decoded⟩ := eq_of_required read
  intro other listed
  have found := Fields.mem_values_of.mp listed
  rw [only, List.mem_singleton] at listed
  rw [listed] at found ⊢
  exact settled json value (fun kept => keepable kept _ found) decoded

theorem settled_optional {absent value : α} (settled : Settled kept room part decode)
    (keepable : kept = true → ∀ entry ∈ fields, entry.2.isKeepable room = true)
    (read : fields.optional? key absent decode = some value) :
    ∀ json ∈ fields.valuesOf key, admits kept room part json = true := by
  by_cases missing : fields.valuesOf key = []
  · simp [missing]
  · have required : fields.required? key decode = some value := by
      rw [Fields.required?]
      rw [Fields.optional?] at read
      split at read <;> simp_all
    exact settled_required settled keepable required

end

section

variable {kept : Bool} {room : Nat}

/-- A record is admitted when its members are. -/
theorem settled_record {part : Part} {json : Json} {members : List Member} {fields : Fields}
    (known : part.members? json = some members) (distinct : (members.map Member.key).Nodup)
    (read : json.recordFields? (members.map Member.key) = some fields)
    (allowed : part.allows kept (room + 1) json = true)
    (each : ∀ member ∈ members, ∀ value ∈ fields.valuesOf member.key,
      admits (part.keeps kept json) room member.part value = true) :
    admits kept (room + 1) part json = true :=
  (admits_iff_fields known distinct read).mpr ⟨allowed, each⟩

theorem span_settled : Settled kept room .span (Span.decode? room) := by
  intro json value _ decoded
  cases room with
  | zero => cases decoded
  | succ room =>
      simp only [Span.decode?, Option.bind_eq_bind, Option.bind_eq_some_iff] at decoded
      obtain ⟨fields, read, -⟩ := decoded
      refine settled_record rfl (by decide) read rfl ?_
      simp

theorem method_settled : Settled kept room .method (MethodRef.decode? room) := by
  intro json value _ decoded
  cases room with
  | zero => cases decoded
  | succ room =>
      simp only [MethodRef.decode?, Option.bind_eq_bind, Option.bind_eq_some_iff] at decoded
      obtain ⟨fields, read, -⟩ := decoded
      refine settled_record rfl (by decide) read rfl ?_
      simp

theorem function_settled : Settled kept room .function (FunctionRef.decode? room) := by
  induction room with
  | zero =>
      intro json value _ decoded
      cases decoded
  | succ room induction =>
      intro json value keepable decoded
      simp only [FunctionRef.decode?, Option.bind_eq_bind, Option.bind_eq_some_iff] at decoded
      obtain ⟨fields, read, _, -, _, -, _, -, origin, derived, -⟩ := decoded
      refine settled_record rfl (by decide) read rfl ?_
      simp only [List.forall_mem_cons, admits_plain, implies_true, true_and]
      exact ⟨settled_optional (settled_nullable induction)
        (fun kept => (keepable_iff_fields read).mp (keepable kept)) derived, by simp⟩

/-! ## Alternatives outside of kept data -/

theorem ordinary_of_content {key : Option String} {content : Json}
    (present : content ≠ .object []) : isOrdinary (.object [(key, content)]) = true := by
  cases content with
  | object members =>
      cases members with
      | nil => exact absurd rfl present
      | cons => rfl
  | _ => rfl

theorem literal_settled : Settled kept room .choice (Literal.decode? kept room) := by
  intro json value _ decoded
  rw [admits_choice]
  cases kept with
  | true => rfl
  | false =>
      unfold Literal.decode? at decoded
      split at decoded
      · rfl
      · apply ordinary_of_content
        rintro rfl
        unfold Literal.decodeAs? at decoded
        split at decoded <;> cases decoded
      · cases decoded

theorem operator_settled : Settled kept room .choice (BinaryOp.decode? kept room) := by
  intro json value _ decoded
  rw [admits_choice]
  cases kept with
  | true => rfl
  | false =>
      unfold BinaryOp.decode? at decoded
      split at decoded
      · rfl
      · apply ordinary_of_content
        rintro rfl
        cases decoded
      · cases decoded

theorem mode_name_settled : Settled kept room .choice (CallMode.tag? kept) := by
  intro json value _ decoded
  rw [admits_choice]
  cases kept with
  | true => rfl
  | false =>
      unfold CallMode.tag? at decoded
      split at decoded
      · rfl
      · cases decoded
      · cases decoded

/-! ## Calls -/

theorem mode_name_keepable {json : Json} {tag : String}
    (named : CallMode.tag? false json = some tag) : json.isKeepable room = true := by
  unfold CallMode.tag? at named
  split at named
  · rw [Json.isKeepable, named]
    rfl
  · cases named
  · cases named

theorem mode_settled : Settled kept room .mode (CallMode.decode? kept room) := by
  intro json value keepable decoded
  cases room with
  | zero =>
      unfold CallMode.decode? at decoded
      split at decoded <;> simp_all
  | succ room =>
      obtain ⟨tag, fields, read, named, others, decoded⟩ := mode_decode_iff.mp decoded
      obtain ⟨name, only, namedSo⟩ := eq_of_required named
      rw [← mode_members_keys] at read
      have known := mode_members (leading_of_values read only) namedSo
      have distinct := mode_members_distinct tag
      have storable : json.isKeepable (room + 1) = true := by
        cases kept with
        | true => exact keepable rfl
        | false =>
            apply (keepable_iff_fields read).mpr
            intro entry found
            by_cases mode : entry.1 = "mode"
            · have listed : entry.2 ∈ fields.valuesOf "mode" :=
                Fields.mem_values_of.mpr (mode ▸ found)
              rw [only, List.mem_singleton] at listed
              rw [listed]
              exact mode_name_keepable namedSo
            · rw [Bool.false_or, List.all_eq_true] at others
              exact others entry (List.mem_filter.mpr ⟨found, decide_eq_true mode⟩)
      have inside := fun _ : kept = true => (keepable_iff_fields read).mp storable
      refine settled_record known distinct read storable (List.forall_mem_cons.mpr ⟨?_, ?_⟩)
      · exact settled_required mode_name_settled inside named
      · unfold CallMode.ofFields? at decoded
        split at decoded
        · simp [Part.ofMode]
        · simp only [Option.bind_eq_bind, Option.bind_eq_some_iff] at decoded
          obtain ⟨receiver, -, method, called, -⟩ := decoded
          simp only [Part.ofMode, List.forall_mem_cons, admits_plain, implies_true, true_and]
          exact ⟨settled_required method_settled inside called, by simp⟩
        · cases decoded

theorem call_settled : Settled kept room .call (CallSite.decode? kept room) := by
  intro json value keepable decoded
  cases room with
  | zero => cases decoded
  | succ room =>
      simp only [CallSite.decode?, Option.bind_eq_bind, Option.bind_eq_some_iff] at decoded
      obtain ⟨fields, read, mode, called, -⟩ := decoded
      refine settled_record rfl (by decide) read rfl ?_
      simp only [List.forall_mem_cons, admits_plain, implies_true, true_and]
      exact ⟨settled_required mode_settled
        (fun kept => (keepable_iff_fields read).mp (keepable kept)) called, by simp⟩

/-! ## Kinds, nodes and graphs -/

theorem operands_settled {tag : String} {fields : Fields} {value : ValueKind}
    (keepable : kept = true → ∀ entry ∈ fields, entry.2.isKeepable room = true)
    (decoded : ValueKind.ofFields? kept room tag fields = some value) :
    ∀ member ∈ Part.ofOperands tag, ∀ json ∈ fields.valuesOf member.key,
      admits kept room member.part json = true := by
  unfold ValueKind.ofFields? at decoded
  split at decoded
  all_goals try simp only [Option.bind_eq_bind, Option.bind_eq_some_iff] at decoded
  · obtain ⟨op, applied, -⟩ := decoded
    simp only [Part.ofOperands, List.forall_mem_cons, admits_plain, implies_true, true_and]
    exact ⟨settled_required operator_settled keepable applied, by simp⟩
  · simp [Part.ofOperands]
  · simp [Part.ofOperands]
  · simp [Part.ofOperands]
  · obtain ⟨func, closed, -⟩ := decoded
    simp only [Part.ofOperands, List.forall_mem_cons, admits_plain, implies_true, true_and]
    exact ⟨settled_required function_settled keepable closed, by simp⟩
  · simp [Part.ofOperands]
  · simp [Part.ofOperands]
  · cases decoded

theorem data_settled {tag : String} :
    Settled kept room (Part.ofData tag) (ValueKind.ofData? kept room tag) := by
  intro json value keepable decoded
  unfold ValueKind.ofData? at decoded
  split at decoded
  · obtain ⟨literal, present, -⟩ := Option.map_eq_some_iff.mp decoded
    exact literal_settled json literal keepable present
  · obtain ⟨site, present, -⟩ := Option.map_eq_some_iff.mp decoded
    exact call_settled json site keepable present
  · obtain ⟨function, present, -⟩ := Option.map_eq_some_iff.mp decoded
    exact function_settled json function keepable present
  · exact admits_plain kept room json
  · rw [Part.ofData]
    · cases room with
      | zero => cases decoded
      | succ room =>
          simp only [Option.bind_eq_bind, Option.bind_eq_some_iff] at decoded
          obtain ⟨fields, read, present⟩ := decoded
          have record := record_of_object read ((Part.ofOperands tag).map Member.key)
          refine settled_record rfl (operand_keys_distinct tag) record rfl ?_
          exact operands_settled
            (fun kept => (keepable_iff_fields record).mp (keepable kept)) present
    all_goals assumption

theorem kind_record_settled {fields : Fields} {value : ValueKind}
    (decoded : ValueKind.decode? (room + 1) (.record fields) = some value) :
    admits kept (room + 1) .kind (.record fields) = true := by
  obtain ⟨name, tag, only, named, content⟩ := kind_decode_record_iff.mp decoded
  have read : Json.recordFields? ["kind", "data"] (.record fields) = some fields :=
    Json.record_fields_record _ _
  have distinct : ["kind", "data"].Nodup := by decide
  have known := kind_members (leading_of_values read only) named
  rcases content with ⟨noneGiven, -⟩ | ⟨data, given, keepable, present⟩
  · refine settled_record known distinct read ?_ ?_
    · simp [Part.allows, noneGiven]
    · simp [noneGiven]
  · refine settled_record known distinct read ?_ ?_
    · cases first : dataFirst (.record fields) with
      | false => simp [Part.allows, first]
      | true => simp [Part.allows, given, keepable first]
    · simp only [List.forall_mem_cons, admits_plain, implies_true, true_and, given]
      exact ⟨⟨data_settled data value keepable present, by simp⟩, by simp⟩

theorem kind_items_settled {items : List Json} {value : ValueKind}
    (decoded : ValueKind.decode? (room + 1) (.array items) = some value) :
    admits kept (room + 1) .kind (.array items) = true := by
  obtain ⟨name, data, rfl⟩ : ∃ name data, items = [name, data] := by
    unfold ValueKind.decode? at decoded
    split at decoded <;> simp_all
  simp only [ValueKind.decode?, Option.bind_eq_bind, Option.bind_eq_some_iff] at decoded
  obtain ⟨tag, named, present⟩ := decoded
  have read : Json.recordFields? ["kind", "data"] (.array [name, data]) =
      some [("kind", name), ("data", data)] := rfl
  have distinct : ["kind", "data"].Nodup := by decide
  have known := kind_members (leading_of_values read (by simp [Fields.valuesOf]))
    (kind_name_of_text named room)
  refine settled_record known distinct read rfl ?_
  have only : Fields.valuesOf [("kind", name), ("data", data)] "data" = [data] := by
    simp [Fields.valuesOf]
  have inside : admits false room (Part.ofData tag) data = true :=
    data_settled data value (by simp) present
  simp only [List.forall_mem_cons, admits_plain, implies_true, true_and, only]
  exact ⟨⟨inside, by simp⟩, by simp⟩

theorem kind_settled : Settled kept room .kind (ValueKind.decode? room) := by
  intro json value _ decoded
  cases room with
  | zero =>
      unfold ValueKind.decode? at decoded
      split at decoded <;> simp_all
  | succ room =>
      cases json with
      | object members =>
          obtain ⟨fields, read⟩ := kind_fields decoded
          rw [Json.record_of_fields read] at decoded ⊢
          exact kind_record_settled decoded
      | array items => exact kind_items_settled decoded
      | _ => simp [ValueKind.decode?] at decoded

theorem node_settled : Settled false room .node (ValueNode.decode? room) := by
  intro json value _ decoded
  cases room with
  | zero => cases decoded
  | succ room =>
      simp only [ValueNode.decode?, Option.bind_eq_bind, Option.bind_eq_some_iff] at decoded
      obtain ⟨fields, read, _, -, _, -, span, spanned, kind, content, -⟩ := decoded
      have unkept : false = true → ∀ entry ∈ fields, entry.2.isKeepable room = true := by simp
      refine settled_record rfl (by decide) read rfl ?_
      simp only [List.forall_mem_cons, admits_plain, implies_true, true_and]
      exact ⟨settled_optional (settled_nullable span_settled) unkept spanned,
        settled_required kind_settled unkept content, by simp⟩

theorem decoded_each {α : Type} {decode : Json → Option α} {items : List Json} {values : List α}
    (decoded : items.mapM decode = some values) :
    ∀ item ∈ items, ∃ value, decode item = some value := by
  induction items generalizing values with
  | nil => simp
  | cons item items induction =>
      simp only [List.mapM_cons, Option.bind_eq_bind, Option.bind_eq_some_iff] at decoded
      obtain ⟨first, here, others, later, -⟩ := decoded
      exact List.forall_mem_cons.mpr ⟨⟨first, here⟩, induction later⟩

theorem nodes_settled : Settled false room (.list .node) (Json.list? ValueNode.decode? room) := by
  intro json values _ decoded
  unfold Json.list? at decoded
  split at decoded
  · rename_i room items
    rw [admits, Bool.and_eq_true, are_admitted_iff]
    refine ⟨rfl, fun entry found => ?_⟩
    rw [zip_item_parts] at found
    obtain ⟨item, listed, rfl⟩ := List.mem_map.mp found
    obtain ⟨node, present⟩ := decoded_each decoded item listed
    exact node_settled item node (by simp) present
  · cases decoded

/-- A graph that is read keeps to the limits of reading. -/
theorem graph_settled : Settled false room .graph (ValueGraph.decode? room) := by
  intro json value _ decoded
  cases room with
  | zero => cases decoded
  | succ room =>
      simp only [ValueGraph.decode?, Option.bind_eq_bind, Option.bind_eq_some_iff] at decoded
      obtain ⟨fields, read, _, -, nodes, listed, -⟩ := decoded
      have unkept : false = true → ∀ entry ∈ fields, entry.2.isKeepable room = true := by simp
      refine settled_record rfl (by decide) read rfl ?_
      simp only [List.forall_mem_cons, admits_plain, implies_true, true_and]
      exact ⟨settled_required nodes_settled unkept listed, by simp⟩

end

end Presentation

end LiteralFlow
