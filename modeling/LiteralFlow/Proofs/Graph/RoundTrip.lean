import LiteralFlow.Graph.Decode
import LiteralFlow.Graph.Encode
import LiteralFlow.Proofs.Json.Nesting
import LiteralFlow.Proofs.Json.RoundTrip

/-!
Graphs are read back as they are written, as long as their numbers fit the words
of the format and their document is not nested too deep.
-/

namespace LiteralFlow

open Json (Natural natural_record natural_option natural_list record_room nat_below_nat
  nullable_text nullable_decode_encode)

def Span.InRange (span : Span) : Prop :=
  (span.start.line < Nat.pow 2 32 ∧ span.start.column < Nat.pow 2 32) ∧
    span.stop.line < Nat.pow 2 32 ∧ span.stop.column < Nat.pow 2 32

def ValueKind.component? : ValueKind → Option Nat
  | extract _ index => some index
  | _ => none

def ValueKind.InRange (kind : ValueKind) : Prop :=
  (∀ id ∈ kind.operands, id.index < Nat.pow 2 64) ∧ ∀ index ∈ kind.component?, index < Nat.pow 2 64

def ValueNode.InRange (node : ValueNode) : Prop :=
  (∀ span ∈ node.span, span.InRange) ∧ node.kind.InRange

def ValueGraph.InRange (graph : ValueGraph) : Prop :=
  ∀ node ∈ graph.nodes, node.InRange

instance (span : Span) : Decidable span.InRange := inferInstanceAs (Decidable (_ ∧ _))

instance (kind : ValueKind) : Decidable kind.InRange := inferInstanceAs (Decidable (_ ∧ _))

instance (node : ValueNode) : Decidable node.InRange := inferInstanceAs (Decidable (_ ∧ _))

instance (graph : ValueGraph) : Decidable graph.InRange :=
  inferInstanceAs (Decidable (∀ node ∈ graph.nodes, node.InRange))

namespace Span

theorem natural_encode (span : Span) : Natural span.encode := by
  apply natural_record
  simp [Json.Natural.number]

theorem decode_encode {span : Span} (inRange : span.InRange) {room : Nat}
    (fits : span.encode.nesting ≤ room) : decode? room span.encode = some span := by
  obtain ⟨inner, rfl, -⟩ := record_room fits
  obtain ⟨⟨startLine, startColumn⟩, stopLine, stopColumn⟩ := inRange
  have coordinate {n : Nat} (small : n < Nat.pow 2 32) :
      Json.natBelow? coordinateLimit (.nat n) = some n := nat_below_nat small
  simp [decode?, encode, Json.Fields.required?, Json.Fields.valuesOf, coordinate startLine,
    coordinate startColumn, coordinate stopLine, coordinate stopColumn]

end Span

namespace Literal

theorem natural_encode (literal : Literal) : Natural literal.encode := by
  cases literal with
  | string source => exact natural_record (by simp [Json.text, Json.Natural.string])
  | int source => exact natural_record (by simp [Json.text, Json.Natural.string])
  | float source => exact natural_record (by simp [Json.text, Json.Natural.string])
  | bool value => exact natural_record (by simp [Json.Natural.bool])
  | nil => exact Json.Natural.string _

theorem decode_encode {literal : Literal} {room : Nat} (fits : literal.encode.nesting ≤ room) :
    decode? false room literal.encode = some literal := by
  cases literal with
  | nil => rfl
  | string source =>
      obtain ⟨inner, rfl, -⟩ := record_room fits
      rfl
  | int source =>
      obtain ⟨inner, rfl, -⟩ := record_room fits
      rfl
  | float source =>
      obtain ⟨inner, rfl, -⟩ := record_room fits
      rfl
  | bool value =>
      obtain ⟨inner, rfl, -⟩ := record_room fits
      rfl

end Literal

theorem BinaryOp.decode_tag (op : BinaryOp) (room : Nat) :
    decode? false room (.text op.tag) = some op := by
  cases op with
  | add => rfl
  | sub => rfl
  | mul => rfl
  | div => rfl

namespace ValueId

theorem natural_encode (id : ValueId) : Natural id.encode :=
  Json.Natural.number id.index

theorem decode_encode {id : ValueId} (inRange : id.index < Nat.pow 2 64) :
    decode? id.encode = some id := by
  have index : Json.natBelow? limit (.nat id.index) = some id.index := nat_below_nat inRange
  rw [decode?, encode, index]
  rfl

theorem decode_encode_all {ids : List ValueId} (inRange : ∀ id ∈ ids, id.index < Nat.pow 2 64)
    {room : Nat} (fits : (encodeAll ids).nesting ≤ room) :
    Json.list? (fun _ => decode?) room (encodeAll ids) = some ids := by
  apply Json.list_decode_encode fits
  intro id member inner _
  exact decode_encode (inRange id member)

theorem decode_encode_option {id : Option ValueId}
    (inRange : ∀ inner ∈ id, inner.index < Nat.pow 2 64) :
    Json.nullable? decode? (Json.ofOption encode id) = some id := by
  apply nullable_decode_encode
  · intro inner same
    cases same
  · intro inner member
    exact decode_encode (inRange inner member)

end ValueId

namespace FunctionRef

theorem natural_encode_from (head : FunctionName) (origins : List FunctionName) :
    Natural (encodeFrom head origins) := by
  have text (value : Option String) : Natural (Json.ofOption .text value) :=
    natural_option fun _ => Json.Natural.string _
  induction origins generalizing head with
  | nil =>
      apply natural_record
      simp [Json.text, Json.Natural.string, Json.Natural.null, text]
  | cons origin origins induction =>
      apply natural_record
      simp [Json.text, Json.Natural.string, text, induction]

theorem decode_record (head : FunctionName) {origin : Json} {room : Nat}
    {decoded : Option FunctionRef}
    (read : Json.nullable? (decode? room) origin = some decoded) :
    decode? (room + 1)
      (.record
        [("name", .text head.name), ("package", Json.ofOption .text head.package),
          ("receiver", Json.ofOption .text head.receiver), ("origin", origin)]) =
      some (derived head decoded) := by
  simp [decode?, Json.Fields.required?, Json.Fields.optional?, Json.Fields.valuesOf, read]

theorem encode_from_present (head : FunctionName) (origins : List FunctionName) :
    encodeFrom head origins ≠ .null := by
  intro same
  cases origins with
  | nil => cases same
  | cons origin origins => cases same

theorem decode_encode_from {head : FunctionName} {origins : List FunctionName} {room : Nat}
    (fits : (encodeFrom head origins).nesting ≤ room) :
    decode? room (encodeFrom head origins) = some { head with origins := origins } := by
  induction origins generalizing head room with
  | nil =>
      obtain ⟨inner, rfl, -⟩ := record_room fits
      have absent : Json.nullable? (decode? inner) .null = some none := rfl
      exact decode_record head absent
  | cons origin origins induction =>
      obtain ⟨inner, rfl, shallow⟩ := record_room fits
      have decoded := induction (shallow ("origin", encodeFrom origin origins) (by simp))
      exact decode_record head
        (Json.nullable_of_present (encode_from_present origin origins) decoded)

theorem natural_encode (func : FunctionRef) : Natural func.encode :=
  natural_encode_from func.toFunctionName func.origins

theorem decode_encode {func : FunctionRef} {room : Nat} (fits : func.encode.nesting ≤ room) :
    decode? room func.encode = some func :=
  decode_encode_from fits

end FunctionRef

namespace MethodRef

theorem natural_encode (method : MethodRef) : Natural method.encode := by
  have package : Natural (Json.ofOption .text method.package) :=
    natural_option fun _ => Json.Natural.string _
  apply natural_record
  simp [Json.text, Json.Natural.string, package]

theorem decode_encode {method : MethodRef} {room : Nat} (fits : method.encode.nesting ≤ room) :
    decode? room method.encode = some method := by
  obtain ⟨inner, rfl, -⟩ := record_room fits
  simp [decode?, encode, Json.Fields.required?, Json.Fields.optional?, Json.Fields.valuesOf]

/-- The members of a method are texts, which can be kept. -/
theorem is_keepable_encode {method : MethodRef} {room : Nat}
    (fits : method.encode.nesting ≤ room) : method.encode.isKeepable room = true := by
  obtain ⟨inner, rfl, -⟩ := record_room fits
  cases package : method.package with
  | none => simp [encode, package, Json.record, Json.ofOption, Json.text, Json.isKeepable,
      Json.areKeepableMembers]
  | some name => simp [encode, package, Json.record, Json.ofOption, Json.text, Json.isKeepable,
      Json.areKeepableMembers]

end MethodRef

theorem ValueId.is_keepable_encode {id : ValueId} (inRange : id.index < Nat.pow 2 64) (room : Nat) :
    id.encode.isKeepable room = true := by
  have finite := JsonNumber.is_finite_of_nat inRange
  rw [ValueId.encode, Json.nat, Json.isKeepable, finite]

theorem CallMode.natural_encode (mode : CallMode) : Natural mode.encode := by
  cases mode with
  | direct callee =>
      apply natural_record
      simp [Json.text, Json.Natural.string, callee.natural_encode]
  | invoke receiver method =>
      apply natural_record
      simp [Json.text, Json.Natural.string, receiver.natural_encode, method.natural_encode]

namespace CallSite

theorem natural_encode (site : CallSite) : Natural site.encode := by
  have args : Natural (ValueId.encodeAll site.args) := natural_list ValueId.natural_encode
  apply natural_record
  simp [site.mode.natural_encode, args]

theorem decode_encode_mode {site : CallSite} (inRange : site.head.index < Nat.pow 2 64) {room : Nat}
    (fits : site.mode.encode.nesting ≤ room) :
    CallMode.decode? false room site.mode.encode = some site.mode := by
  cases mode : site.mode with
  | direct callee =>
      simp only [head, mode] at inRange
      rw [mode] at fits
      obtain ⟨inner, rfl, -⟩ := record_room fits
      rw [CallMode.encode, Json.record, CallMode.decode?, Json.fields_record]
      simp [Json.Fields.required?, Json.Fields.valuesOf, CallMode.tag?, Json.text,
        CallMode.ofFields?, ValueId.is_keepable_encode inRange, ValueId.decode_encode inRange]
  | invoke receiver method =>
      simp only [head, mode] at inRange
      rw [mode] at fits
      obtain ⟨inner, rfl, shallow⟩ := record_room fits
      have methodFits := shallow ("method", method.encode) (by simp)
      rw [CallMode.encode, Json.record, CallMode.decode?, Json.fields_record]
      simp [Json.Fields.required?, Json.Fields.valuesOf, CallMode.tag?, Json.text,
        CallMode.ofFields?, ValueId.is_keepable_encode inRange, ValueId.decode_encode inRange,
        MethodRef.is_keepable_encode methodFits, MethodRef.decode_encode methodFits]

theorem decode_encode {site : CallSite} (inRange : ∀ id ∈ site.operands, id.index < Nat.pow 2 64)
    {room : Nat} (fits : site.encode.nesting ≤ room) :
    decode? false room site.encode = some site := by
  obtain ⟨inner, rfl, shallow⟩ := record_room fits
  have mode := decode_encode_mode (inRange site.head (by simp [operands]))
    (shallow ("mode", site.mode.encode) (by simp))
  have args := ValueId.decode_encode_all (fun id member => inRange id (by simp [operands, member]))
    (shallow ("args", ValueId.encodeAll site.args) (by simp))
  simp [decode?, encode, Json.Fields.required?, Json.Fields.optional?, Json.Fields.valuesOf,
    mode, args]

end CallSite

namespace ValueKind

theorem natural_encode_as {tag : String} {data : Json} (natural : Natural data) :
    Natural (encodeAs tag data) := by
  apply natural_record
  simp [Json.text, Json.Natural.string, natural]

theorem natural_encode (kind : ValueKind) : Natural kind.encode := by
  have bound (id : Option ValueId) : Natural (Json.ofOption ValueId.encode id) :=
    natural_option ValueId.natural_encode
  have all (ids : List ValueId) : Natural (ValueId.encodeAll ids) :=
    natural_list ValueId.natural_encode
  cases kind with
  | const literal => exact natural_encode_as literal.natural_encode
  | binary op x y =>
      exact natural_encode_as (natural_record (by
        simp [Json.text, Json.Natural.string, ValueId.natural_encode]))
  | phi edges => exact natural_encode_as (natural_record (by simp [all]))
  | call site => exact natural_encode_as site.natural_encode
  | slice base low high =>
      exact natural_encode_as (natural_record (by simp [ValueId.natural_encode, bound]))
  | function func => exact natural_encode_as func.natural_encode
  | builtin name =>
      exact natural_encode_as (natural_record (by simp [Json.text, Json.Natural.string]))
  | closure func bindings =>
      exact natural_encode_as (natural_record (by simp [func.natural_encode, all]))
  | deref x => exact natural_encode_as (natural_record (by simp [ValueId.natural_encode]))
  | extract tuple index =>
      exact natural_encode_as (natural_record (by
        simp [ValueId.natural_encode, Json.Natural.number]))
  | unmodelled => exact natural_record (by simp [Json.text, Json.Natural.string])

/-- A name and its data are read in this order, with one level less for the data. -/
theorem decode_encode_as {tag : String} {data : Json} {kind : ValueKind} {room : Nat}
    (fits : (encodeAs tag data).nesting ≤ room)
    (read : ∀ inner, data.nesting ≤ inner → ofData? false inner tag data = some kind) :
    decode? room (encodeAs tag data) = some kind := by
  obtain ⟨inner, rfl, shallow⟩ := record_room fits
  have decoded := read inner (shallow ("data", data) (by simp))
  rw [encodeAs, Json.record, decode?, Json.fields_record]
  simp [tag?, Json.text, decoded]

/-- The data of a kind with members of its own is one record. -/
theorem decode_encode_fields {tag : String} {members : List (String × Json)} {kind : ValueKind}
    {room : Nat} (fits : (encodeAs tag (.record members)).nesting ≤ room)
    (named : tag ≠ "const" ∧ tag ≠ "call" ∧ tag ≠ "function" ∧ tag ≠ "opaque")
    (read : ∀ inner, (∀ member ∈ members, member.2.nesting ≤ inner) →
      ofFields? false inner tag members = some kind) :
    decode? room (encodeAs tag (.record members)) = some kind := by
  apply decode_encode_as fits
  intro inner dataFits
  obtain ⟨least, rfl, shallow⟩ := record_room dataFits
  have decoded := read least shallow
  simp [ofData?, named, decoded]

theorem decode_encode {kind : ValueKind} (inRange : kind.InRange) {room : Nat}
    (fits : kind.encode.nesting ≤ room) : decode? room kind.encode = some kind := by
  obtain ⟨operands, component⟩ := inRange
  cases kind with
  | const literal =>
      apply decode_encode_as fits
      intro inner dataFits
      simp [ofData?, Literal.decode_encode dataFits]
  | binary op x y =>
      apply decode_encode_fields fits (by decide)
      intro inner shallow
      have left := ValueId.decode_encode (operands x (by simp [ValueKind.operands]))
      have right := ValueId.decode_encode (operands y (by simp [ValueKind.operands]))
      simp [ofFields?, Json.Fields.required?, Json.Fields.valuesOf, op.decode_tag, left, right]
  | phi edges =>
      apply decode_encode_fields fits (by decide)
      intro inner shallow
      have decoded : Json.list? (fun _ => ValueId.decode?) inner (ValueId.encodeAll edges) =
          some edges :=
        ValueId.decode_encode_all operands (shallow ("edges", ValueId.encodeAll edges) (by simp))
      simp [ofFields?, Json.Fields.required?, Json.Fields.valuesOf, decoded]
  | call site =>
      apply decode_encode_as fits
      intro inner dataFits
      simp [ofData?, CallSite.decode_encode operands dataFits]
  | slice base low high =>
      apply decode_encode_fields fits (by decide)
      intro inner shallow
      have start := ValueId.decode_encode (operands base (by simp [ValueKind.operands]))
      have lower : Json.nullable? ValueId.decode? (Json.ofOption ValueId.encode low) = some low :=
        ValueId.decode_encode_option fun id found =>
          operands id (by simp [ValueKind.operands, Option.mem_def.mp found])
      have upper : Json.nullable? ValueId.decode? (Json.ofOption ValueId.encode high) = some high :=
        ValueId.decode_encode_option fun id found =>
          operands id (by simp [ValueKind.operands, Option.mem_def.mp found])
      simp [ofFields?, Json.Fields.required?, Json.Fields.optional?, Json.Fields.valuesOf, start,
        lower, upper]
  | function func =>
      apply decode_encode_as fits
      intro inner dataFits
      simp [ofData?, FunctionRef.decode_encode dataFits]
  | builtin name =>
      apply decode_encode_fields fits (by decide)
      intro inner shallow
      simp [ofFields?, Json.Fields.required?, Json.Fields.valuesOf]
  | closure func bindings =>
      apply decode_encode_fields fits (by decide)
      intro inner shallow
      have target := FunctionRef.decode_encode (shallow ("func", func.encode) (by simp))
      have decoded : Json.list? (fun _ => ValueId.decode?) inner (ValueId.encodeAll bindings) =
          some bindings :=
        ValueId.decode_encode_all operands
          (shallow ("bindings", ValueId.encodeAll bindings) (by simp))
      simp [ofFields?, Json.Fields.required?, Json.Fields.optional?, Json.Fields.valuesOf, target,
        decoded]
  | deref x =>
      apply decode_encode_fields fits (by decide)
      intro inner shallow
      have decoded := ValueId.decode_encode (operands x (by simp [ValueKind.operands]))
      simp [ofFields?, Json.Fields.required?, Json.Fields.valuesOf, decoded]
  | extract tuple index =>
      apply decode_encode_fields fits (by decide)
      intro inner shallow
      have decoded := ValueId.decode_encode (operands tuple (by simp [ValueKind.operands]))
      have number : Json.natBelow? ValueId.limit (.nat index) = some index :=
        nat_below_nat (component index rfl)
      simp [ofFields?, Json.Fields.required?, Json.Fields.valuesOf, decoded, number]
  | unmodelled =>
      obtain ⟨inner, rfl, -⟩ := record_room fits
      rfl

end ValueKind

namespace ValueNode

theorem natural_encode (node : ValueNode) : Natural node.encode := by
  have span : Natural (Json.ofOption Span.encode node.span) := natural_option Span.natural_encode
  apply natural_record
  simp [Json.text, Json.Natural.string, span, node.kind.natural_encode]

theorem decode_encode {node : ValueNode} (inRange : node.InRange) {room : Nat}
    (fits : node.encode.nesting ≤ room) : decode? room node.encode = some node := by
  obtain ⟨inner, rfl, shallow⟩ := record_room fits
  have spanFits := shallow ("span", Json.ofOption Span.encode node.span) (by simp)
  have span : Json.nullable? (Span.decode? inner) (Json.ofOption Span.encode node.span) =
      some node.span := by
    apply nullable_decode_encode
    · intro span same
      cases same
    · intro span found
      rw [Option.mem_def.mp found] at spanFits
      exact Span.decode_encode (inRange.1 span found) spanFits
  have kind := ValueKind.decode_encode inRange.2 (shallow ("kind", node.kind.encode) (by simp))
  simp [decode?, encode, Json.Fields.required?, Json.Fields.optional?, Json.Fields.valuesOf,
    span, kind]

end ValueNode

namespace ValueGraph

theorem natural_encode (graph : ValueGraph) : Natural graph.encode := by
  have nodes : Natural (.array (graph.nodes.toList.map ValueNode.encode)) :=
    natural_list ValueNode.natural_encode
  apply natural_record
  simp only [List.forall_mem_cons, Json.text, Json.Natural.string, nodes]
  simp

theorem decode_encode {graph : ValueGraph} (inRange : graph.InRange) {room : Nat}
    (fits : graph.encode.nesting ≤ room) : decode? room graph.encode = some graph := by
  obtain ⟨inner, rfl, shallow⟩ := record_room fits
  have nodes : Json.list? ValueNode.decode? inner
      (.array (graph.nodes.toList.map ValueNode.encode)) = some graph.nodes.toList := by
    apply Json.list_decode_encode (shallow ("nodes", _) (by simp))
    intro node member least nodeFits
    exact ValueNode.decode_encode (inRange node (Array.mem_toList_iff.mp member)) nodeFits
  simp only [decode?, encode, Json.record_fields_record, Json.Fields.required?,
    Json.Fields.optional?, Json.Fields.valuesOf]
  simp [nodes]

/-- Reading the text of a graph gives the graph when it is valid, and else the
fault that makes it invalid. -/
theorem parse_render (graph : ValueGraph) (inRange : graph.InRange)
    (shallow : graph.encode.nesting ≤ 127) :
    (graph.validate = .ok () → parse graph.render = .ok graph) ∧
      ∀ cause, graph.validate = .error cause → parse graph.render = .error (.graph cause) := by
  have decoded : ofJson? graph.encode = some graph := decode_encode inRange shallow
  have read : (Json.parse? graph.render).bind ofJson? = some graph := by
    rw [render, Json.parse_pretty_text graph.natural_encode, Option.bind_some, decoded]
  refine ⟨?_, ?_⟩
  · intro valid
    simp only [parse, read, valid]
  · intro cause invalid
    simp only [parse, read, invalid]

/-- A graph with every kind of value, literal and call, an instance of an
instance, and texts that have to be escaped. -/
def everyKind : ValueGraph where
  function := "caf\u00e9 \x22\\\n\x01\x7f\u2028😀"
  nodes := #[
    ⟨"t0", "string", some ⟨⟨0xffffffff, 0⟩, ⟨0, 0xffffffff⟩⟩, .const (.string "\x22\\u0000\x22")⟩,
    ⟨"t1", "", none, .const (.int "0x10")⟩,
    ⟨"t2", "", none, .const (.float "1e3")⟩,
    ⟨"t3", "", none, .const (.bool true)⟩,
    ⟨"t4", "", none, .const .nil⟩,
    ⟨"t5", "", some .zero, .binary .div ⟨1⟩ ⟨12⟩⟩,
    ⟨"t6", "", none, .phi [⟨6⟩, ⟨0⟩, ⟨6⟩]⟩,
    ⟨"t7", "", none, .call ⟨.direct ⟨10⟩, [⟨6⟩]⟩⟩,
    ⟨"t8", "", none, .call ⟨.invoke ⟨4⟩ ⟨"Error", none⟩, []⟩⟩,
    ⟨"t9", "", none, .slice ⟨0⟩ none (some ⟨7⟩)⟩,
    ⟨"t10", "", none, .builtin "len"⟩,
    ⟨"t11", "", none, .function
      (.instantiate "Map[int][U]" (.instantiate "Map[int]" (.method "p" "List[T]" "Map")))⟩,
    ⟨"t12", "", none, .closure (.function "p/q" "main$1") [⟨0⟩, ⟨13⟩]⟩,
    ⟨"t13", "", none, .deref ⟨12⟩⟩,
    ⟨"t14", "", none, .extract ⟨8⟩ 0xffffffffffffffff⟩,
    ⟨"t15", "", none, .unmodelled⟩]

def everyKindAndLost : ValueGraph :=
  (everyKind.add (.ofKind "lost" (.deref ⟨0xffffffffffffffff⟩))).1

theorem every_kind_read_back :
    parse everyKind.render = .ok everyKind ∧
      parse everyKindAndLost.render =
        .error (.graph (.danglingOperand ⟨16⟩ "lost" ⟨0xffffffffffffffff⟩)) := by
  have valid : everyKind.validate = .ok () := by cbv
  have invalid : everyKindAndLost.validate =
      .error (.danglingOperand ⟨16⟩ "lost" ⟨0xffffffffffffffff⟩) := by cbv
  exact ⟨(parse_render everyKind (by decide) (by decide +kernel)).1 valid,
    (parse_render everyKindAndLost (by decide) (by decide +kernel)).2 _ invalid⟩

end ValueGraph

end LiteralFlow
