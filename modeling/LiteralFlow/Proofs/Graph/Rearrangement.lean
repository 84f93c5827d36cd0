import LiteralFlow.Graph.Decode
import LiteralFlow.Proofs.Json.Nesting
import Mathlib.Data.List.Nodup

/-!
Documents of graphs that differ in their presentation only: members are in
another order, members that the format does not know come and go, and members
that hold their default are left out.

Such documents hold the same graph as long as the reader can take the new one in
one pass. It reads a call mode, and data that stands before the name of its kind,
only after it kept them as a whole, and what is kept has to consist of texts and
finite numbers within the room that is left. Data behind the name of its kind is
not kept, and in it an alternative has only its ordinary form.
-/

namespace LiteralFlow

namespace Json

theorem record_of_fields {members : List (Option String × Json)} {fields : Fields}
    (read : fields? members = some fields) : object members = record fields := by
  induction members generalizing fields with
  | nil =>
      cases read
      rfl
  | cons member members induction =>
      obtain ⟨key, value⟩ := member
      cases key with
      | none => cases read
      | some key =>
          cases others : fields? members with
          | none =>
              rw [fields?] at others read
              rw [List.mapM_cons, others] at read
              cases read
          | some tail =>
              have step : fields? ((some key, value) :: members) = some ((key, value) :: tail) := by
                rw [fields?] at others ⊢
                rw [List.mapM_cons, others]
                rfl
              rw [step] at read
              cases read
              have same := object.inj (induction others)
              rw [record, List.map_cons, ← same]

namespace Fields

theorem values_of_append (first second : Fields) (key : String) :
    valuesOf (first ++ second) key = first.valuesOf key ++ second.valuesOf key :=
  List.filterMap_append

theorem values_of_perm {first second : Fields} (perm : first.Perm second) (key : String) :
    (first.valuesOf key).Perm (second.valuesOf key) :=
  perm.filterMap _

theorem mem_values_of {fields : Fields} {key : String} {value : Json} :
    value ∈ fields.valuesOf key ↔ (key, value) ∈ fields := by
  simp only [valuesOf, List.mem_filterMap]
  constructor
  · rintro ⟨⟨other, inner⟩, found, same⟩
    split at same
    · rename_i equal
      cases same
      rwa [← equal]
    · cases same
  · intro found
    exact ⟨(key, value), found, by simp⟩

theorem values_of_eq_nil {fields : Fields} {key : String}
    (unknown : ∀ member ∈ fields, member.1 ≠ key) : fields.valuesOf key = [] := by
  apply List.eq_nil_iff_forall_not_mem.mpr
  intro value found
  exact unknown _ (mem_values_of.mp found) rfl

theorem values_of_filter {keep : String → Bool} {key : String} (stays : keep key = true)
    (fields : Fields) :
    valuesOf (fields.filter fun (other, _) => keep other) key = fields.valuesOf key := by
  rw [valuesOf, valuesOf, List.filterMap_filter]
  apply List.filterMap_congr
  rintro ⟨other, value⟩ -
  by_cases same : other = key
  · simp [same, stays]
  · simp [same]

end Fields

end Json

open Json (Fields)

namespace Presentation

/-- What a value in the document of a graph is read as. -/
inductive Part where
  /-- A text, a number, an index, a list of indices, or `null` instead of one. -/
  | plain
  /-- One of several alternatives: a literal, an operator or the name of a mode. -/
  | choice
  | list (item : Part)
  | span
  | method
  | function
  | mode
  | call
  /-- The data of a kind that is an object with the operands. -/
  | operands (tag : String)
  | kind
  | node
  | graph

/-- A member that the format knows, with the default that it can be left out for. -/
structure Member where
  key : String
  part : Part
  absent : Option Json

def leading? (key : String) : Json → Option Json
  | .array (first :: _) => some first
  | json => json.objectFields?.bind fun fields => (fields.valuesOf key).head?

def dataFirst (json : Json) : Bool :=
  json.objectFields?.any fun fields =>
    (fields.find? fun (key, _) => key = "kind" || key = "data").any fun (key, _) => key = "data"

namespace Part

def ofMode : String → List Member
  | "direct" => [⟨"callee", .plain, none⟩]
  | "invoke" => [⟨"receiver", .plain, none⟩, ⟨"method", .method, none⟩]
  | _ => []

def ofOperands : String → List Member
  | "bin_op" => [⟨"op", .choice, none⟩, ⟨"x", .plain, none⟩, ⟨"y", .plain, none⟩]
  | "phi" => [⟨"edges", .plain, none⟩]
  | "slice" => [⟨"base", .plain, none⟩, ⟨"low", .plain, some .null⟩, ⟨"high", .plain, some .null⟩]
  | "builtin" => [⟨"name", .plain, none⟩]
  | "make_closure" => [⟨"func", .function, none⟩, ⟨"bindings", .plain, some (.array [])⟩]
  | "deref" => [⟨"x", .plain, none⟩]
  | "extract" => [⟨"tuple", .plain, none⟩, ⟨"index", .plain, none⟩]
  | _ => []

def ofData : String → Part
  | "const" => choice
  | "call" => call
  | "function" => function
  | "opaque" => plain
  | tag => operands tag

def members? (part : Part) (json : Json) : Option (List Member) :=
  match part with
  | plain => none
  | choice => none
  | list _ => none
  | span => some
      [⟨"start_line", plain, none⟩, ⟨"start_col", plain, none⟩, ⟨"end_line", plain, none⟩,
        ⟨"end_col", plain, none⟩]
  | method => some [⟨"name", plain, none⟩, ⟨"package", plain, some .null⟩]
  | function => some
      [⟨"name", plain, none⟩, ⟨"package", plain, some .null⟩, ⟨"receiver", plain, some .null⟩,
        ⟨"origin", function, some .null⟩]
  | mode =>
      let tag := (leading? "mode" json).bind (CallMode.tag? true)
      some (⟨"mode", choice, none⟩ :: tag.elim [] ofMode)
  | call => some [⟨"mode", mode, none⟩, ⟨"args", plain, some (.array [])⟩]
  | operands tag => some (ofOperands tag)
  | kind =>
      let tag := (leading? "kind" json).bind (ValueKind.tag? 1)
      some [⟨"kind", plain, none⟩, ⟨"data", tag.elim plain ofData, none⟩]
  | node => some
      [⟨"name", plain, none⟩, ⟨"ty", plain, some (.text "")⟩, ⟨"span", span, some .null⟩,
        ⟨"kind", kind, none⟩]
  | graph => some [⟨"function", plain, some (.text "")⟩, ⟨"nodes", list node, none⟩]

end Part

/-- One document with a change of presentation is the other. Objects that are no
records have at most one member, so there is nothing to change in them. -/
inductive Rearranged : Part → Json → Json → Prop where
  | same (part : Part) (json : Json) : Rearranged part json json
  | list {part : Part} {items items' : List Json} (sizes : items.length = items'.length)
      (each : ∀ pair ∈ items.zip items', Rearranged part pair.1 pair.2) :
      Rearranged (.list part) (.array items) (.array items')
  /-- Members keep their keys and have their values rearranged, are left out, or
  are new. What is left out is a default or not known, and what is new is not known. -/
  | record {part : Part} {members : List Member} {fields fields' : Fields}
      (shared : List (String × Json × Json)) (omitted added : Fields)
      (known : part.members? (.record fields) = some members)
      (before : fields.Perm (shared.map (fun entry => (entry.1, entry.2.1)) ++ omitted))
      (after : fields'.Perm (shared.map (fun entry => (entry.1, entry.2.2)) ++ added))
      (each : ∀ entry ∈ shared, ∀ member ∈ members, member.key = entry.1 →
        Rearranged member.part entry.2.1 entry.2.2)
      (defaults : ∀ entry ∈ omitted, ∀ member ∈ members, member.key = entry.1 →
        member.absent = some entry.2)
      (unknown : ∀ entry ∈ added, ∀ member ∈ members, member.key ≠ entry.1) :
      Rearranged part (.record fields) (.record fields')
  /-- A record can be an array of its values. -/
  | sequence {part : Part} {members : List Member} {items items' : List Json}
      (known : part.members? (.array items) = some members)
      (sizes : items.length = items'.length)
      (each : ∀ entry ∈ members.zip (items.zip items'),
        Rearranged entry.1.part entry.2.1 entry.2.2) :
      Rearranged part (.array items) (.array items')

def unchanged (fields : Fields) : List (String × Json × Json) :=
  fields.map fun entry => (entry.1, entry.2, entry.2)

@[simp] theorem unchanged_before (fields : Fields) :
    (unchanged fields).map (fun entry => (entry.1, entry.2.1)) = fields := by
  rw [unchanged, List.map_map]
  exact List.map_id fields

@[simp] theorem unchanged_after (fields : Fields) :
    (unchanged fields).map (fun entry => (entry.1, entry.2.2)) = fields := by
  rw [unchanged, List.map_map]
  exact List.map_id fields

theorem rearranged_unchanged {fields : Fields} {entry : String × Json × Json}
    (found : entry ∈ unchanged fields) (part : Part) : Rearranged part entry.2.1 entry.2.2 := by
  obtain ⟨origin, -, rfl⟩ := List.mem_map.mp found
  exact .same part origin.2

/-- Members in another order. -/
theorem Rearranged.permuted {part : Part} {members : List Member} {fields fields' : Fields}
    (known : part.members? (.record fields) = some members) (perm : fields.Perm fields') :
    Rearranged part (.record fields) (.record fields') := by
  refine .record (unchanged fields) [] [] known (by simp) ?_ ?_ (by simp) (by simp)
  · simpa using perm.symm
  · exact fun entry found member _ _ => rearranged_unchanged found member.part

/-- Members that are not known behind the others. -/
theorem Rearranged.added {part : Part} {members : List Member} {fields added : Fields}
    (known : part.members? (.record fields) = some members)
    (unknown : ∀ entry ∈ added, ∀ member ∈ members, member.key ≠ entry.1) :
    Rearranged part (.record fields) (.record (fields ++ added)) := by
  refine .record (unchanged fields) [] added known (by simp) (by simp) ?_ (by simp) unknown
  exact fun entry found member _ _ => rearranged_unchanged found member.part

/-- A member with its value rearranged. -/
theorem Rearranged.inside {part : Part} {members : List Member} (front back : Fields)
    {key : String} {value value' : Json}
    (known : part.members? (.record (front ++ (key, value) :: back)) = some members)
    (inner : ∀ member ∈ members, member.key = key → Rearranged member.part value value') :
    Rearranged part (.record (front ++ (key, value) :: back))
      (.record (front ++ (key, value') :: back)) := by
  refine .record (unchanged front ++ (key, value, value') :: unchanged back) [] [] known (by simp)
    (by simp) ?_ (by simp) (by simp)
  intro entry found member listed same
  rcases List.mem_append.mp found with found | found
  · exact rearranged_unchanged found member.part
  rcases List.mem_cons.mp found with rfl | found
  · exact inner member listed same
  · exact rearranged_unchanged found member.part

theorem Rearranged.item {part : Part} {item item' : Json} (inner : Rearranged part item item') :
    Rearranged (.list part) (.array [item]) (.array [item']) := by
  refine Rearranged.list rfl fun pair found => ?_
  cases List.mem_singleton.mp found
  exact inner

/-- Whether an alternative has a form that it also has outside of kept data. -/
def isOrdinary : Json → Bool
  | .number _ => false
  | .object [(_, .object [])] => false
  | _ => true

namespace Part

/-- Whether a value itself can be read where it stands, `kept` or not. -/
def allows (kept : Bool) (room : Nat) (part : Part) (json : Json) : Bool :=
  match part with
  | choice => kept || isOrdinary json
  | mode => json.isKeepable room
  | kind =>
      !dataFirst json || json.objectFields?.all fun fields =>
        (fields.valuesOf "data").all (Json.isKeepable (room - 1))
  | _ => true

def keeps (kept : Bool) (part : Part) (json : Json) : Bool :=
  match part with
  | kind => dataFirst json
  | _ => kept

def itemParts (part : Part) (json : Json) (size : Nat) : List Part :=
  match part with
  | list item => List.replicate size item
  | _ => ((part.members? json).getD []).map Member.part

end Part

mutual

/-- Whether a value and all that is read inside it can be read where it stands. -/
def admits (kept : Bool) (room : Nat) (part : Part) (json : Json) : Bool :=
  part.allows kept room json &&
    match json with
    | .array items =>
        areAdmitted (part.keeps kept json) (room - 1) (part.itemParts json items.length) items
    | .object fields =>
        areAdmittedMembers (part.keeps kept json) (room - 1) ((part.members? json).getD []) fields
    | _ => true

def areAdmitted (kept : Bool) (room : Nat) (parts : List Part) (items : List Json) : Bool :=
  match items with
  | [] => true
  | item :: items =>
      match parts with
      | [] => true
      | part :: parts => admits kept room part item && areAdmitted kept room parts items

def areAdmittedMembers (kept : Bool) (room : Nat) (members : List Member)
    (fields : List (Option String × Json)) : Bool :=
  match fields with
  | [] => true
  | (key, value) :: fields =>
      (members.all fun member => some member.key ≠ key || admits kept room member.part value) &&
        areAdmittedMembers kept room members fields

end

/-! ## How the members of a record are found again -/

theorem Rearranged.eq_of_leaf {part : Part} {json json' : Json}
    (rearranged : Rearranged part json json') (leaf : part = .plain ∨ part = .choice) :
    json' = json := by
  have noneKnown : ∀ other, part.members? other = none := by
    rcases leaf with rfl | rfl
    · exact fun _ => rfl
    · exact fun _ => rfl
  cases rearranged with
  | same => rfl
  | list => rcases leaf with leaf | leaf <;> cases leaf
  | record _ _ _ known =>
      rw [noneKnown] at known
      cases known
  | sequence known =>
      rw [noneKnown] at known
      cases known

theorem Rearranged.null_iff {part : Part} {json json' : Json}
    (rearranged : Rearranged part json json') : json' = .null ↔ json = .null := by
  cases rearranged with
  | same => rfl
  | list => simp
  | record => simp [Json.record]
  | sequence => simp

structure Found (member : Member) (fields fields' : Fields) : Prop where
  absent : fields.valuesOf member.key = [] → fields'.valuesOf member.key = []
  present : ∀ value, fields.valuesOf member.key = [value] →
    (∃ value', fields'.valuesOf member.key = [value'] ∧ Rearranged member.part value value') ∨
      (member.absent = some value ∧ fields'.valuesOf member.key = [])

theorem values_of_shared (shared : List (String × Json × Json)) (side : Json × Json → Json)
    (key : String) :
    Fields.valuesOf (shared.map fun entry => (entry.1, side entry.2)) key =
      (shared.filter fun entry => entry.1 = key).map fun entry => side entry.2 := by
  induction shared with
  | nil => rfl
  | cons entry shared induction =>
      rw [Fields.valuesOf] at induction ⊢
      rw [List.map_cons, List.filterMap_cons, List.filter_cons, induction]
      by_cases same : entry.1 = key <;> simp [same]

theorem found_of_perm {members : List Member} {fields fields' : Fields}
    (shared : List (String × Json × Json)) (omitted added : Fields)
    (before : fields.Perm (shared.map (fun entry => (entry.1, entry.2.1)) ++ omitted))
    (after : fields'.Perm (shared.map (fun entry => (entry.1, entry.2.2)) ++ added))
    (each : ∀ entry ∈ shared, ∀ member ∈ members, member.key = entry.1 →
      Rearranged member.part entry.2.1 entry.2.2)
    (defaults : ∀ entry ∈ omitted, ∀ member ∈ members, member.key = entry.1 →
      member.absent = some entry.2)
    (unknown : ∀ entry ∈ added, ∀ member ∈ members, member.key ≠ entry.1)
    {member : Member} (listed : member ∈ members) : Found member fields fields' := by
  have first := Fields.values_of_perm before member.key
  have second := Fields.values_of_perm after member.key
  have noneAdded : added.valuesOf member.key = [] :=
    Fields.values_of_eq_nil fun entry found same => unknown entry found member listed same.symm
  rw [Fields.values_of_append, values_of_shared shared Prod.fst] at first
  rw [Fields.values_of_append, values_of_shared shared Prod.snd, noneAdded, List.append_nil]
    at second
  cases staying : shared.filter fun entry => entry.1 = member.key with
  | nil =>
      rw [staying, List.map_nil, List.nil_append] at first
      rw [staying, List.map_nil] at second
      refine ⟨fun _ => second.eq_nil, fun value only => Or.inr ⟨?_, second.eq_nil⟩⟩
      have leftOut : value ∈ omitted.valuesOf member.key :=
        first.mem_iff.mp (by rw [only]; exact List.mem_singleton_self value)
      exact defaults _ (Fields.mem_values_of.mp leftOut) member listed rfl
  | cons entry others =>
      rw [staying, List.map_cons] at first second
      have found : entry ∈ shared ∧ entry.1 = member.key := by
        have head : entry ∈ shared.filter fun entry => entry.1 = member.key := by
          rw [staying]
          exact List.mem_cons_self
        simpa using head
      refine ⟨fun missing => ?_, fun value only => Or.inl ⟨entry.2.2, ?_, ?_⟩⟩
      · rw [missing] at first
        cases first.symm.eq_nil
      all_goals
        rw [only] at first
        obtain ⟨same, rest⟩ := List.cons.inj (List.perm_singleton.mp first.symm)
      · obtain ⟨noneOther, -⟩ := List.append_eq_nil_iff.mp rest
        rw [List.map_eq_nil_iff.mp noneOther, List.map_nil] at second
        exact List.perm_singleton.mp second
      · rw [← same]
        exact each entry found.1 member listed found.2.symm

/-- The values of an array get the keys of its members. -/
theorem zip_keys (members : List Member) {items items' : List Json}
    (sizes : items.length = items'.length) :
    (members.map Member.key).zip items =
        ((members.zip (items.zip items')).map fun entry => (entry.1.key, entry.2)).map
          (fun entry => (entry.1, entry.2.1)) ∧
      (members.map Member.key).zip items' =
        ((members.zip (items.zip items')).map fun entry => (entry.1.key, entry.2)).map
          (fun entry => (entry.1, entry.2.2)) := by
  induction members generalizing items items' with
  | nil => simp
  | cons member members induction =>
      cases items with
      | nil =>
          cases items' with
          | nil => simp
          | cons => cases sizes
      | cons item items =>
          cases items' with
          | nil => cases sizes
          | cons item' items' =>
              obtain ⟨first, second⟩ := induction (Nat.succ.inj sizes)
              simp only [List.map_cons, List.zip_cons_cons, first, second, and_self]

theorem member_of_key {members : List Member} (distinct : (members.map Member.key).Nodup)
    {first second : Member} (listed : first ∈ members) (other : second ∈ members)
    (same : first.key = second.key) : first = second :=
  List.inj_on_of_nodup_map distinct listed other same

theorem Rearranged.fields {part : Part} {json json' : Json}
    (rearranged : Rearranged part json json') {members : List Member}
    (known : part.members? json = some members) (distinct : (members.map Member.key).Nodup)
    {fields : Fields} (read : json.recordFields? (members.map Member.key) = some fields) :
    ∃ fields', json'.recordFields? (members.map Member.key) = some fields' ∧
      ∀ member ∈ members, Found member fields fields' := by
  cases rearranged with
  | same =>
      exact ⟨fields, read, fun member _ =>
        ⟨id, fun value only => Or.inl ⟨value, only, .same _ _⟩⟩⟩
  | list => cases known
  | record shared omitted added also before after each defaults unknown =>
      rw [known] at also
      cases also
      rw [Json.record_fields_record] at read
      cases read
      exact ⟨_, Json.record_fields_record _ _, fun member listed =>
        found_of_perm shared omitted added before after each defaults unknown listed⟩
  | sequence also sizes each =>
      rw [known] at also
      cases also
      simp only [Json.recordFields?, sizes] at read ⊢
      split at read
      · rename_i short
        cases read
        obtain ⟨first, second⟩ := zip_keys members sizes
        refine ⟨_, if_pos short, fun member listed => ?_⟩
        apply found_of_perm ((members.zip _).map fun entry => (entry.1.key, entry.2)) [] []
          (by rw [first, List.append_nil]) (by rw [second, List.append_nil]) _ (by simp) (by simp)
          listed
        intro entry found other listed same
        obtain ⟨origin, among, rfl⟩ := List.mem_map.mp found
        rw [member_of_key distinct listed (List.of_mem_zip among).1 same]
        exact each origin among
      · cases read

/-! ## What is admitted inside a value that is admitted -/

theorem are_admitted_iff {kept : Bool} {room : Nat} {parts : List Part} {items : List Json} :
    areAdmitted kept room parts items = true ↔
      ∀ entry ∈ parts.zip items, admits kept room entry.1 entry.2 = true := by
  induction items generalizing parts with
  | nil => simp [areAdmitted]
  | cons item items induction =>
      cases parts with
      | nil => simp [areAdmitted]
      | cons part parts =>
          rw [areAdmitted, Bool.and_eq_true, induction, List.zip_cons_cons, List.forall_mem_cons]

theorem are_admitted_members_iff {kept : Bool} {room : Nat} {members : List Member}
    {fields : Fields} :
    areAdmittedMembers kept room members (fields.map fun (key, value) => (some key, value)) = true ↔
      ∀ member ∈ members, ∀ value ∈ fields.valuesOf member.key,
        admits kept room member.part value = true := by
  simp only [Fields.mem_values_of]
  induction fields with
  | nil => simp [areAdmittedMembers]
  | cons entry fields induction =>
      obtain ⟨key, inner⟩ := entry
      rw [List.map_cons, areAdmittedMembers, Bool.and_eq_true, induction]
      simp only [List.all_eq_true, Bool.or_eq_true, decide_eq_true_eq, ne_eq, Option.some.injEq,
        List.mem_cons, Prod.mk.injEq]
      constructor
      · rintro ⟨here, later⟩ member listed value (⟨same, rfl⟩ | found)
        · rcases here member listed with other | admitted
          · exact absurd same other
          · exact admitted
        · exact later member listed value found
      · intro each
        refine ⟨fun member listed => ?_, fun member listed value found =>
          each member listed value (Or.inr found)⟩
        by_cases same : member.key = key
        · exact Or.inr (each member listed inner (Or.inl ⟨same, rfl⟩))
        · exact Or.inl same

theorem admits_iff_fields {part : Part} {json : Json} {members : List Member} {fields : Fields}
    (known : part.members? json = some members) (distinct : (members.map Member.key).Nodup)
    (read : json.recordFields? (members.map Member.key) = some fields) {kept : Bool} {room : Nat} :
    admits kept room part json = true ↔
      part.allows kept room json = true ∧
        ∀ member ∈ members, ∀ value ∈ fields.valuesOf member.key,
          admits (part.keeps kept json) (room - 1) member.part value = true := by
  rw [admits.eq_def, Bool.and_eq_true]
  apply and_congr_right'
  cases json with
  | object fields =>
      cases Json.record_of_fields read
      rw [known]
      exact are_admitted_members_iff
  | array items =>
      have parts : part.itemParts (.array items) items.length = members.map Member.part := by
        unfold Part.itemParts
        split
        · cases known
        · rw [known]
          rfl
      simp only [Json.recordFields?] at read
      split at read
      · cases read
        simp only [parts, are_admitted_iff, Fields.mem_values_of, List.zip_map_left]
        rw [List.forall_mem_map]
        constructor
        · intro each member listed value found
          obtain ⟨⟨other, item⟩, among, same⟩ := List.mem_map.mp found
          obtain ⟨equal, rfl⟩ := Prod.mk.inj same
          rw [← member_of_key distinct (List.of_mem_zip among).1 listed equal]
          exact each _ among
        · rintro each ⟨member, value⟩ among
          exact each member (List.of_mem_zip among).1 value (List.mem_map.mpr ⟨_, among, rfl⟩)
      · cases read
  | _ => cases read

theorem admits_leaf {part : Part} (leaf : part = .plain ∨ part = .choice) (kept : Bool)
    (room : Nat) (json : Json) : admits kept room part json = part.allows kept room json := by
  have noneKnown : (part.members? json).getD [] = [] := by
    rcases leaf with rfl | rfl
    · rfl
    · rfl
  have noParts (size : Nat) : part.itemParts json size = [] := by
    rcases leaf with rfl | rfl
    · rfl
    · rfl
  have noMembers (kept : Bool) (room : Nat) (fields : List (Option String × Json)) :
      areAdmittedMembers kept room [] fields = true := by
    induction fields with
    | nil => rfl
    | cons entry fields induction =>
        rw [areAdmittedMembers, induction]
        rfl
  rw [admits.eq_def]
  split
  · rw [noParts, are_admitted_iff.mpr (by simp), Bool.and_true]
  · rw [noneKnown, noMembers, Bool.and_true]
  · rw [Bool.and_true]

@[simp] theorem admits_plain (kept : Bool) (room : Nat) (json : Json) :
    admits kept room .plain json = true := by
  rw [admits_leaf (Or.inl rfl)]
  rfl

@[simp] theorem admits_choice (kept : Bool) (room : Nat) (json : Json) :
    admits kept room .choice json = (kept || isOrdinary json) := by
  rw [admits_leaf (Or.inr rfl)]
  rfl

/-- A member that is found again, and that can be read there. -/
structure Agrees (kept : Bool) (room : Nat) (member : Member) (fields fields' : Fields) : Prop
    extends Found member fields fields' where
  admitted : ∀ value ∈ fields'.valuesOf member.key, admits kept room member.part value = true

theorem Rearranged.agrees {part : Part} {json json' : Json}
    (rearranged : Rearranged part json json') {members : List Member}
    (known : part.members? json = some members) (known' : part.members? json' = some members)
    (distinct : (members.map Member.key).Nodup) {fields : Fields}
    (read : json.recordFields? (members.map Member.key) = some fields) {kept : Bool} {room : Nat}
    (admitted : admits kept (room + 1) part json' = true) :
    ∃ fields', json'.recordFields? (members.map Member.key) = some fields' ∧
      ∀ member ∈ members, Agrees (part.keeps kept json') room member fields fields' := by
  obtain ⟨fields', read', found⟩ := rearranged.fields known distinct read
  have inside := (admits_iff_fields known' distinct read').mp admitted
  exact ⟨fields', read', fun member listed => ⟨found member listed, inside.2 member listed⟩⟩

section

variable {α : Type} {kept : Bool} {room : Nat} {member : Member} {fields fields' : Fields}
  {decode decode' : Json → Option α} {value : α}

/-- A decoder of the new value gives what the decoder of the old value gave. -/
def Carried (kept : Bool) (room : Nat) (part : Part) (decode decode' : Json → Option α)
    (value : α) : Prop :=
  ∀ json json', Rearranged part json json' → admits kept room part json' = true →
    decode json = some value → decode' json' = some value

theorem carried_plain : Carried kept room .plain decode decode value := by
  intro json json' rearranged _ decoded
  rw [rearranged.eq_of_leaf (Or.inl rfl)]
  exact decoded

theorem carried_nullable {part : Part} {value : Option α}
    (carried : ∀ inner, Carried kept room part decode decode' inner) :
    Carried kept room part (Json.nullable? decode) (Json.nullable? decode') value := by
  intro json json' rearranged admitted decoded
  by_cases null : json = .null
  · rw [rearranged.null_iff.mpr null]
    rwa [null] at decoded
  · rw [Json.nullable?] at decoded
    · obtain ⟨inner, present, rfl⟩ := Option.map_eq_some_iff.mp decoded
      exact Json.nullable_of_present (fun same => null (rearranged.null_iff.mp same))
        (carried inner json json' rearranged admitted present)
    · exact null

theorem Agrees.required (agrees : Agrees kept room member fields fields')
    (needed : member.absent = none) (carried : Carried kept room member.part decode decode' value)
    (read : fields.required? member.key decode = some value) :
    fields'.required? member.key decode' = some value := by
  rw [Fields.required?] at read
  split at read
  · rename_i inner only
    rcases agrees.present inner only with ⟨inner', only', rearranged⟩ | ⟨default, -⟩
    · rw [Fields.required?, only']
      exact carried inner inner' rearranged (agrees.admitted inner' (by simp [only'])) read
    · rw [needed] at default
      cases default
  · cases read

theorem Agrees.optional {absent : α} (agrees : Agrees kept room member fields fields')
    (default : ∀ json, member.absent = some json → decode json = some value → value = absent)
    (carried : Carried kept room member.part decode decode' value)
    (read : fields.optional? member.key absent decode = some value) :
    fields'.optional? member.key absent decode' = some value := by
  rw [Fields.optional?] at read
  split at read
  · rename_i missing
    rw [Fields.optional?, agrees.absent missing]
    exact read
  · rename_i inner only
    rcases agrees.present inner only with ⟨inner', only', rearranged⟩ | ⟨leftOut, missing⟩
    · rw [Fields.optional?, only']
      exact carried inner inner' rearranged (agrees.admitted inner' (by simp [only'])) read
    · rw [Fields.optional?, missing, default inner leftOut read]
  · cases read

end

end Presentation

end LiteralFlow
