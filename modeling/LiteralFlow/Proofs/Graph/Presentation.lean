import LiteralFlow.Proofs.Graph.Admission
import LiteralFlow.Proofs.Json.Respacing

/-!
The presentation of a graph has no meaning: its document can be rearranged and
respaced, and the graph is the same. Only what has to be kept sets a limit, and a
document beyond it is refused as a whole.
-/

namespace LiteralFlow.Presentation

open Json (Fields)

/-- One text is the other with its document rearranged and its space changed. -/
def Presents (text text' : String) : Prop :=
  ∃ json json' written, Json.parse? text = some json ∧ Rearranged .graph json json' ∧
    Json.parse? written = some json' ∧ Json.Respaced written.toList text'.toList

/-- Whether a text keeps to the limits of reading: a mode, and data before its kind,
has only Unicode texts and finite numbers and is not nested too deep, and data behind
its kind names a mode by a text and has no empty object in an operator or a literal. -/
def isWithinLimits (text : String) : Bool :=
  (Json.parse? text).any (admits false Json.maximumNesting .graph)

theorem parse_graph_eq_ok_iff {text : String} {graph : ValueGraph} :
    ValueGraph.parse text = .ok graph ↔
      ∃ json, Json.parse? text = some json ∧ ValueGraph.ofJson? json = some graph ∧
        graph.validate = .ok () := by
  have split : ValueGraph.parse text = .ok graph ↔
      (Json.parse? text).bind ValueGraph.ofJson? = some graph ∧ graph.validate = .ok () := by
    rw [ValueGraph.parse]
    cases (Json.parse? text).bind ValueGraph.ofJson? with
    | none => simp
    | some other =>
        simp only [Option.some.injEq]
        cases valid : other.validate with
        | error cause =>
            constructor
            · intro same
              cases same
            · rintro ⟨rfl, otherValid⟩
              rw [valid] at otherValid
              cases otherValid
        | ok =>
            constructor
            · intro same
              cases same
              exact ⟨rfl, valid⟩
            · rintro ⟨rfl, -⟩
              rfl
  rw [split, Option.bind_eq_some_iff]
  exact ⟨fun ⟨⟨json, read, decoded⟩, valid⟩ => ⟨json, read, decoded, valid⟩,
    fun ⟨json, read, decoded, valid⟩ => ⟨⟨json, read, decoded⟩, valid⟩⟩

theorem parse_graph_of_not_decoded {text : String} {json : Json}
    (read : Json.parse? text = some json) (refused : ValueGraph.ofJson? json = none) :
    ValueGraph.parse text = .error .document := by
  rw [ValueGraph.parse, read, Option.bind_some, refused]

/-- A text that presents the graph of another one holds the same graph if it keeps
to the limits of reading, and is no document of a graph otherwise. -/
theorem decoding_ignores_presentation {text text' : String} {graph : ValueGraph}
    (presents : Presents text text') (accepted : ValueGraph.parse text = .ok graph) :
    ValueGraph.parse text' = if isWithinLimits text' then .ok graph else .error .document := by
  obtain ⟨json, json', written, read, rearranged, read', respaced⟩ := presents
  have whole := Json.parse_respaced respaced read'
  obtain ⟨other, same, decoded, valid⟩ := parse_graph_eq_ok_iff.mp accepted
  rw [read] at same
  cases same
  rw [isWithinLimits, whole, Option.any_some]
  split
  · rename_i admitted
    exact parse_graph_eq_ok_iff.mpr
      ⟨json', whole, graph_carried json json' rearranged admitted decoded, valid⟩
  · rename_i refused
    apply parse_graph_of_not_decoded whole
    apply Option.eq_none_iff_forall_not_mem.mpr
    intro graph' decoded'
    exact refused (graph_settled json' graph' (by simp) decoded')

/-! ## Reading a written text -/

/-- A text in two pieces is read as their characters, without taking the text apart. -/
theorem parse_of_pieces {first second : List Char} {json : Json}
    (read : Json.readValue? ((first ++ second).length + 1) (first ++ second) = some (json, [])) :
    Json.parse? (String.ofList first ++ String.ofList second) = some json := by
  have characters : (String.ofList first ++ String.ofList second).toList = first ++ second := by
    rw [String.toList_append, String.toList_ofList, String.toList_ofList]
  rw [Json.parse?, characters, read]
  rfl

theorem respaced_line {text : String} {json : Json} (read : Json.parse? text = some json) :
    Json.Respaced text.toList ("\n" ++ text).toList := by
  rw [String.toList_append]
  exact .after rfl (Json.respaced_self read)

/-! ## A call, spelled out and rearranged -/

def directMode : Fields := [("mode", .text "direct"), ("callee", .nat 0)]

theorem direct_mode_members : Part.members? .mode (.record directMode) =
    some [⟨"mode", .choice, none⟩, ⟨"callee", .plain, none⟩] := rfl

theorem call_members (data : Json) :
    Part.members? .kind (.record [("kind", .text "call"), ("data", data)]) =
      some [⟨"kind", .plain, none⟩, ⟨"data", .call, none⟩] := rfl

def rearrangedMode : Json :=
  .record [("callee", .nat 0), ("note", .null), ("mode", .text "direct")]

theorem rearranged_mode : Rearranged .mode (.record directMode) rearrangedMode := by
  refine .record (unchanged directMode) [] [("note", .null)] direct_mode_members (by simp) ?_ ?_
    (by simp) (by simp)
  · change ([("callee", Json.nat 0), ("note", Json.null)] ++ [("mode", Json.text "direct")]).Perm _
    exact List.perm_append_comm
  · exact fun entry found member _ _ => rearranged_unchanged found member.part

def spelledOutSite : Json := .record [("mode", .record directMode), ("args", .array [])]

def rearrangedSite : Json := .record [("mode", rearrangedMode)]

theorem rearranged_site : Rearranged .call spelledOutSite rearrangedSite := by
  refine .record [("mode", .record directMode, rearrangedMode)] [("args", .array [])] [] rfl
    (.refl _) (.refl _) ?_ (by simp) (by simp)
  simpa using rearranged_mode

def spelledOutKind : Json := .record [("kind", .text "call"), ("data", spelledOutSite)]

def rearrangedKind : Json := .record [("data", rearrangedSite), ("kind", .text "call")]

theorem rearranged_kind : Rearranged .kind spelledOutKind rearrangedKind := by
  refine .record [("kind", .text "call", .text "call"), ("data", spelledOutSite, rearrangedSite)]
    [] [] (call_members spelledOutSite) (.refl _) (.swap _ _ _) ?_ (by simp) (by simp)
  simpa using And.intro (Rearranged.same .plain (.text "call")) rearranged_site

def spelledOutNode : Json :=
  .record [("name", .text "f"), ("ty", .text ""), ("span", .null), ("kind", spelledOutKind)]

def rearrangedNode : Json :=
  .record [("note", .array [.nat 1]), ("kind", rearrangedKind), ("name", .text "f")]

theorem rearranged_node : Rearranged .node spelledOutNode rearrangedNode := by
  refine .record [("name", .text "f", .text "f"), ("kind", spelledOutKind, rearrangedKind)]
    [("ty", .text ""), ("span", .null)] [("note", .array [.nat 1])] rfl ?_ ?_ ?_ (by simp) (by simp)
  · apply List.Perm.cons
    change ([("ty", Json.text ""), ("span", Json.null)] ++ [("kind", spelledOutKind)]).Perm _
    exact List.perm_append_comm
  · exact List.reverse_perm [("name", .text "f"), ("kind", rearrangedKind), ("note", _)]
  · simpa using And.intro (Rearranged.same .plain (.text "f")) rearranged_kind

def spelledOutCall : Json :=
  .record [("function", .text ""), ("nodes", .array [spelledOutNode])]

def rearrangedCall : Json :=
  .record [("nodes", .array [rearrangedNode]), ("version", .nat 2)]

theorem rearranged_call : Rearranged .graph spelledOutCall rearrangedCall := by
  refine .record [("nodes", .array [spelledOutNode], .array [rearrangedNode])]
    [("function", .text "")] [("version", .nat 2)] rfl (.swap _ _ _) (.refl _) ?_ (by simp)
    (by simp)
  simpa using rearranged_node.item

def spelledOutText : String :=
  "\x7b\"function\":\"\",\"nodes\":[\x7b\"name\":\"f\",\"ty\":\"\",\"span\":null,\"kind\":\x7b" ++
    "\"kind\":\"call\",\"data\":\x7b\"mode\":\x7b\"mode\":\"direct\",\"callee\":0\x7d,\"args\":[]\x7d\x7d\x7d]\x7d"

def rearrangedText : String :=
  "\x7b\"nodes\": [\x7b\"note\": [1], \"kind\": \x7b\"data\": \x7b\"mode\": \x7b\"callee\": 0, " ++
    "\"note\": null, \"mode\": \"direct\"\x7d\x7d, \"kind\": \"call\"\x7d, \"name\": \"f\"\x7d], \"version\": 2\x7d"

def callGraph : ValueGraph := ⟨"", #[⟨"f", "", none, .call ⟨.direct ⟨0⟩, []⟩⟩]⟩

set_option maxRecDepth 4000 in
theorem spelled_out_read : Json.parse? spelledOutText = some spelledOutCall :=
  parse_of_pieces rfl

set_option maxRecDepth 4000 in
theorem rearranged_read : Json.parse? rearrangedText = some rearrangedCall :=
  parse_of_pieces rfl

theorem rearranged_call_presents : Presents spelledOutText ("\n" ++ rearrangedText) :=
  ⟨spelledOutCall, rearrangedCall, rearrangedText, spelled_out_read, rearranged_call,
    rearranged_read, respaced_line rearranged_read⟩

theorem rearranged_call_decodes :
    Presents spelledOutText ("\n" ++ rearrangedText) ∧
      ValueGraph.parse spelledOutText = .ok callGraph ∧
      isWithinLimits ("\n" ++ rearrangedText) = true ∧
      ValueGraph.parse ("\n" ++ rearrangedText) = .ok callGraph := by
  have decoded : ValueGraph.ofJson? spelledOutCall = some callGraph := rfl
  have accepted : ValueGraph.parse spelledOutText = .ok callGraph :=
    parse_graph_eq_ok_iff.mpr ⟨spelledOutCall, spelled_out_read, decoded, rfl⟩
  have within : isWithinLimits ("\n" ++ rearrangedText) = true := by
    rw [isWithinLimits, Json.parse_respaced (respaced_line rearranged_read) rearranged_read]
    rfl
  refine ⟨rearranged_call_presents, accepted, within, ?_⟩
  rw [decoding_ignores_presentation rearranged_call_presents accepted, within]
  rfl

/-! ## Rearrangements that are refused -/

/-- An accepted text with another presentation that is not accepted. -/
def RefusedAs (text text' : String) : Prop :=
  Presents text text' ∧ (∃ graph, ValueGraph.parse text = .ok graph) ∧
    ValueGraph.parse text' = .error .document

def oneNodeText (kindOn : String) : String :=
  "\x7b\"nodes\":[\x7b\"name\":\"a\",\"kind\":" ++ kindOn

def kindDocument (kind : Json) : Json :=
  .record [("nodes", .array [.record [("name", .text "a"), ("kind", kind)]])]

theorem rearranged_kind_document {kind kind' : Json} (inner : Rearranged .kind kind kind') :
    Rearranged .graph (kindDocument kind) (kindDocument kind') := by
  have node : Rearranged .node (.record [("name", .text "a"), ("kind", kind)])
      (.record [("name", .text "a"), ("kind", kind')]) := by
    refine .inside [("name", .text "a")] [] rfl ?_
    simpa using inner
  refine .inside [] [] rfl ?_
  simpa using node.item

theorem refused_as_of_kinds {kind kind' : Json} {graph : ValueGraph} {text text' : String}
    (rearranged : Rearranged .kind kind kind')
    (read : Json.parse? text = some (kindDocument kind))
    (read' : Json.parse? text' = some (kindDocument kind'))
    (decoded : ValueGraph.ofJson? (kindDocument kind) = some graph)
    (valid : graph.validate = .ok ())
    (refused : ValueGraph.ofJson? (kindDocument kind') = none) : RefusedAs text text' := by
  refine ⟨⟨kindDocument kind, kindDocument kind', text', read,
    rearranged_kind_document rearranged, read', Json.respaced_self read'⟩, ⟨graph, ?_⟩, ?_⟩
  · exact parse_graph_eq_ok_iff.mpr ⟨kindDocument kind, read, decoded, valid⟩
  · exact parse_graph_of_not_decoded read' refused

theorem rearranged_swap (first second : String × Json) :
    Rearranged .kind (.record [first, second]) (.record [second, first]) :=
  .permuted rfl (.swap _ _ [])

def excessive : Json := .number ⟨false, 1, [], some 309⟩

def directCall (mode : Fields) : Json :=
  .record [("kind", .text "call"), ("data", .record [("mode", .record mode)])]

theorem rearranged_noted_mode (note : Json) :
    Rearranged .kind (directCall directMode) (directCall (directMode ++ [("note", note)])) := by
  have mode : Rearranged .mode (.record directMode) (.record (directMode ++ [("note", note)])) :=
    .added direct_mode_members (by simp)
  have site : Rearranged .call (.record [("mode", .record directMode)])
      (.record [("mode", .record (directMode ++ [("note", note)]))]) := by
    refine .inside [] [] rfl ?_
    simpa using mode
  refine .inside [("kind", .text "call")] [] (call_members _) ?_
  simpa using site

def dereference : Json :=
  .record [("kind", .text "deref"), ("data", .record [("x", .nat 0)])]

/-- Data behind its kind has fewer forms than data before it, and what is kept has
fewer values than what is passed over. -/
theorem kept_presentations_refused :
    RefusedAs
      (oneNodeText "\x7b\"data\":\x7b\"mode\":\x7b\"mode\":0,\"callee\":0\x7d\x7d,\"kind\":\"call\"\x7d\x7d]\x7d")
      (oneNodeText "\x7b\"kind\":\"call\",\"data\":\x7b\"mode\":\x7b\"mode\":0,\"callee\":0\x7d\x7d\x7d\x7d]\x7d") ∧
    RefusedAs
      (oneNodeText "\x7b\"data\":\x7b\"op\":\x7b\"add\":\x7b\x7d\x7d,\"x\":0,\"y\":0\x7d,\"kind\":\"bin_op\"\x7d\x7d]\x7d")
      (oneNodeText "\x7b\"kind\":\"bin_op\",\"data\":\x7b\"op\":\x7b\"add\":\x7b\x7d\x7d,\"x\":0,\"y\":0\x7d\x7d\x7d]\x7d") ∧
    RefusedAs
      (oneNodeText "\x7b\"kind\":\"call\",\"data\":\x7b\"mode\":\x7b\"mode\":\"direct\",\"callee\":0\x7d\x7d\x7d\x7d]\x7d")
      (oneNodeText "\x7b\"kind\":\"call\",\"data\":\x7b\"mode\":\x7b\"mode\":\"direct\",\"callee\":0,\"note\":1e309\x7d\x7d\x7d\x7d]\x7d") ∧
    RefusedAs
      (oneNodeText "\x7b\"kind\":\"call\",\"data\":\x7b\"mode\":\x7b\"mode\":\"direct\",\"callee\":0\x7d\x7d\x7d\x7d]\x7d")
      (oneNodeText "\x7b\"kind\":\"call\",\"data\":\x7b\"mode\":\x7b\"mode\":\"direct\",\"callee\":0,\"note\":\"\\ud800\"\x7d\x7d\x7d\x7d]\x7d") ∧
    RefusedAs
      (oneNodeText "\x7b\"kind\":\"deref\",\"data\":\x7b\"x\":0,\"note\":1e309\x7d\x7d\x7d]\x7d")
      (oneNodeText "\x7b\"data\":\x7b\"x\":0,\"note\":1e309\x7d,\"kind\":\"deref\"\x7d\x7d]\x7d") ∧
    (∃ graph, ValueGraph.parse
      (oneNodeText "\x7b\"kind\":\"deref\",\"data\":\x7b\"x\":0\x7d\x7d\x7d]\x7d") = .ok graph) ∧
    ValueGraph.parse
      (oneNodeText "\x7b\"kind\":\"deref\",\"data\":\x7b\"x\":0\x7d\x7d,\"\\ud800\":null\x7d]\x7d") = .error .document := by
  refine ⟨?_, ?_, ?_, ?_, ?_, ?_, ?_⟩
  · exact refused_as_of_kinds
      (rearranged_swap
        ("data", .record [("mode", .record [("mode", .nat 0), ("callee", .nat 0)])])
        ("kind", .text "call"))
      (parse_of_pieces rfl) (parse_of_pieces rfl) rfl rfl rfl
  · exact refused_as_of_kinds
      (rearranged_swap
        ("data", .record [("op", .record [("add", .record [])]), ("x", .nat 0), ("y", .nat 0)])
        ("kind", .text "bin_op"))
      (parse_of_pieces rfl) (parse_of_pieces rfl) rfl rfl rfl
  · exact refused_as_of_kinds (rearranged_noted_mode excessive)
      (parse_of_pieces rfl) (parse_of_pieces rfl) rfl rfl rfl
  · exact refused_as_of_kinds (rearranged_noted_mode (.string none))
      (parse_of_pieces rfl) (parse_of_pieces rfl) rfl rfl rfl
  · exact refused_as_of_kinds
      (rearranged_swap ("kind", .text "deref")
        ("data", .record [("x", .nat 0), ("note", excessive)]))
      (parse_of_pieces rfl) (parse_of_pieces rfl) rfl rfl rfl
  · exact ⟨⟨"", #[⟨"a", "", none, .deref ⟨0⟩⟩]⟩, parse_graph_eq_ok_iff.mpr
      ⟨kindDocument dereference, parse_of_pieces rfl, rfl, rfl⟩⟩
  · have read : Json.parse?
        (oneNodeText "\x7b\"kind\":\"deref\",\"data\":\x7b\"x\":0\x7d\x7d,\"\\ud800\":null\x7d]\x7d") =
        some (.record [("nodes", .array [.object
          [(some "name", .text "a"), (some "kind", dereference), (none, .null)]])]) :=
      parse_of_pieces rfl
    exact parse_graph_of_not_decoded read rfl

end LiteralFlow.Presentation
