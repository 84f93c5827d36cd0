import LiteralFlow.Graph.Decode
import LiteralFlow.Proofs.Resolve.Renaming

/-!
A validated graph answers every question that resolution and classification ask
about its values. Ids that the graph does not know are never looked up from a value
that it knows, so any other answers for them change nothing.
-/

namespace LiteralFlow

namespace ValueGraph

variable {graph : ValueGraph} {id : ValueId}

theorem mem_entries_iff {node : ValueNode} :
    (id, node) ∈ graph.entries ↔ graph.node? id = some node := by
  simp only [entries, node?, List.mem_map, Prod.exists, Prod.mk.injEq,
    List.mk_mem_zipIdx_iff_getElem?, Array.getElem?_toList]
  constructor
  · intro entry
    rcases entry with ⟨_, index, found, rfl, rfl⟩
    exact found
  · intro found
    exact ⟨node, id.index, found, rfl, rfl⟩

theorem missing_operand_eq_none_iff {kind : ValueKind} :
    graph.missingOperand? kind = none ↔
      ∀ operand ∈ kind.operands, operand.index < graph.size := by
  simp [missingOperand?, List.find?_eq_none]

/-- A graph is valid exactly when its values read only its own values. -/
theorem validate_eq_ok_iff :
    graph.validate = .ok () ↔ ∀ id kind, graph.kind? id = some kind →
      ∀ operand ∈ kind.operands, operand.index < graph.size := by
  have checked : graph.validate = .ok () ↔ ∀ id node, (id, node) ∈ graph.entries →
      graph.missingOperand? node.kind = none := by
    simp only [validate]
    split
    · rename_i error reported
      obtain ⟨⟨id, node⟩, member, missing⟩ := List.exists_of_findSome?_eq_some reported
      simp only [reduceCtorEq, false_iff]
      intro closed
      rw [closed id node member] at missing
      cases missing
    · rename_i unreported
      simp only [List.findSome?_eq_none_iff, Option.map_eq_none_iff] at unreported
      simp only [true_iff]
      exact fun id node member => unreported (id, node) member
  simp only [checked, mem_entries_iff, missing_operand_eq_none_iff, kind?,
    Lookup.kind_eq_some_iff]
  constructor
  · intro closed id kind known
    rcases known with ⟨node, found, rfl⟩
    exact closed id node found
  · intro closed id node found
    exact closed id node.kind ⟨node, found, rfl⟩

theorem validate_of_parse {text : String} (read : parse text = .ok graph) :
    graph.validate = .ok () := by
  simp only [parse] at read
  split at read
  · cases read
  · split at read
    · cases read
    · rename_i valid
      cases read
      exact valid

/-- A lookup that answers as the graph does for the graph's values, and in any way
for other ids. -/
def ExtendedBy (graph : ValueGraph) (lookup : Lookup) : Prop :=
  ∀ id, id.index < graph.size → lookup id = graph.node? id

end ValueGraph

theorem ValueKind.rename_id (kind : ValueKind) : kind.rename id = kind := by
  cases kind with
  | call site =>
      obtain ⟨mode, args⟩ := site
      cases mode <;> simp [rename, CallSite.rename, CallMode.rename]
  | _ => simp [rename]

namespace ValueGraph

variable {graph : ValueGraph} {lookup : Lookup} {value : ValueId}

theorem kind_of_extended (answers : graph.ExtendedBy lookup) (inside : value.index < graph.size) :
    lookup.kind? value = graph.kind? value := by
  rw [kind?, Lookup.kind?, Lookup.kind?, answers value inside]

theorem same_shape_of_extended (valid : graph.validate = .ok ())
    (answers : graph.ExtendedBy lookup) :
    SameShape graph.node? lookup {value | value.index < graph.size} id where
  closed value _ := validate_eq_ok_iff.mp valid value
  injective := Function.injective_id.injOn
  unknown value inside := by rw [id_eq, answers value inside]
  known value inside node image found imageFound := by
    rw [id_eq, answers value inside, found] at imageFound
    cases imageFound
    exact ⟨node.kind.rename_id.symm, rfl⟩

theorem name_of_extended (answers : graph.ExtendedBy lookup) (inside : value.index < graph.size) :
    CallTarget.nameAt lookup value = CallTarget.nameAt graph.node? value := by
  rw [CallTarget.nameAt, CallTarget.nameAt, answers value inside]

/-- The second lookup for a label is at an operand of the callee. -/
theorem dynamic_label_of_extended (valid : graph.validate = .ok ())
    (answers : graph.ExtendedBy lookup) (inside : value.index < graph.size) :
    CallTarget.dynamicLabel lookup value = CallTarget.dynamicLabel graph.node? value := by
  simp only [CallTarget.dynamicLabel, answers value inside]
  cases found : graph.node? value with
  | none => rfl
  | some node =>
      have closed := validate_eq_ok_iff.mp valid value node.kind (Lookup.kind_of_node found)
      cases sort : node.kind with
      | call inner =>
          rw [sort] at closed
          simp only [sort, name_of_extended answers (closed inner.head List.mem_cons_self)]
      | deref x =>
          rw [sort] at closed
          simp only [sort, name_of_extended answers (closed x List.mem_cons_self)]
      | _ => simp only [sort]

theorem classify_of_extended (valid : graph.validate = .ok ()) (answers : graph.ExtendedBy lookup)
    {site : CallSite} (inside : ∀ operand ∈ site.operands, operand.index < graph.size) :
    site.classify lookup = graph.classify site := by
  have head : site.head.index < graph.size := inside site.head List.mem_cons_self
  simp only [classify, CallSite.classify, CallSite.head] at head ⊢
  cases mode : site.mode with
  | direct callee =>
      rw [mode] at head
      simp only [CallTarget.ofMode, CallTarget.ofCallee, kind_of_extended answers head,
        dynamic_label_of_extended valid answers head, kind?]
  | invoke receiver method =>
      rw [mode] at head
      simp only [CallTarget.ofMode, answers receiver head]

/-- The call behind a value is that of a value of the graph. -/
theorem operands_of_call_site (valid : graph.validate = .ok ()) {site : CallSite}
    (found : graph.callSite? value = some site) :
    ∀ operand ∈ site.operands, operand.index < graph.size := by
  have closed {value : ValueId} (isCall : graph.kind? value = some (.call site)) :=
    validate_eq_ok_iff.mp valid value _ isCall
  simp only [callSite?, Lookup.callSite?] at found
  split at found
  · rename_i isCall
    cases found
    exact closed isCall
  · split at found
    · rename_i isCall
      cases found
      exact closed isCall
    · cases found
  · cases found

theorem call_site_of_extended (valid : graph.validate = .ok ()) (answers : graph.ExtendedBy lookup)
    (inside : value.index < graph.size) : lookup.callSite? value = graph.callSite? value := by
  simp only [callSite?, Lookup.callSite?, kind_of_extended answers inside, kind?]
  cases known : graph.node?.kind? value with
  | none => rfl
  | some kind =>
      cases kind with
      | extract tuple index =>
          have tupleInside : tuple.index < graph.size :=
            validate_eq_ok_iff.mp valid value _ known tuple List.mem_cons_self
          simp only [kind_of_extended answers tupleInside, kind?]
      | _ => rfl

theorem call_of_extended (valid : graph.validate = .ok ()) (answers : graph.ExtendedBy lookup)
    (inside : value.index < graph.size) : lookup.call? value = graph.call? value := by
  simp only [call?, Lookup.call?, call_site_of_extended valid answers inside]
  apply Option.map_congr
  intro site found
  exact classify_of_extended valid answers (operands_of_call_site valid found)

end ValueGraph

namespace Resolve

/-- Every graph that is read from JSON is valid. In a valid graph, resolution from a
value of the graph and classification of the call behind it look up only values of
the graph: other answers for all other ids change no candidate, no target and no
name. -/
theorem validated_lookups_inside :
    (∀ text graph, ValueGraph.parse text = .ok graph → graph.validate = .ok ()) ∧
    ∀ (graph : ValueGraph) (lookup : Lookup) (value : ValueId), graph.validate = .ok () →
      graph.ExtendedBy lookup → value.index < graph.size →
      (∀ config listings depth bound,
        textsFrom (.ofConfig lookup config listings) value depth bound =
          ((TextResolver.ofConfig graph config).withListings listings).resolveFrom value depth
            bound ∧
        integersFrom lookup value depth bound =
          (IntegerResolver.ofConfig graph config).resolveFrom value depth bound) ∧
      lookup.call? value = graph.call? value := by
  refine ⟨fun text graph read => ValueGraph.validate_of_parse read, ?_⟩
  intro graph lookup value valid answers inside
  let values : Set ValueId := {value | value.index < graph.size}
  have shape : SameShape graph.node? lookup values id :=
    ValueGraph.same_shape_of_extended valid answers
  refine ⟨?_, ValueGraph.call_of_extended valid answers inside⟩
  intro config listings depth bound
  constructor
  · let context := ((TextResolver.ofConfig graph config).withListings listings).context
    have rules : Rules.Renamed context.lookup lookup values id (textRules context)
        (textRules { context with lookup := lookup }) := text_rules_renamed shape
    exact walk_renamed shape rules inside
  · have rules : Rules.Renamed graph.node? lookup values id integerRules integerRules := by
      rw [integer_rules_eq_arithmetic]
      exact arithmetic_rules_renamed shape fun site _ => rfl
    exact walk_renamed shape rules inside

def computedCallee : ValueGraph where
  function := "main.computed"
  nodes := #[
    .ofKind "text" (.const (.string "\"né\"")),
    .ofKind "len" (.builtin "len"),
    .ofKind "length" (.call ⟨.direct ⟨1⟩, [⟨0⟩]⟩),
    .ofKind "part" (.slice ⟨0⟩ none (some ⟨2⟩)),
    .ofKind "getter" (.function (.function "main" "getter")),
    .ofKind "callee" (.call ⟨.direct ⟨4⟩, []⟩),
    .ofKind "result" (.call ⟨.direct ⟨5⟩, [⟨3⟩]⟩),
    .ofKind "first" (.extract ⟨6⟩ 0)]

def haunted : Lookup := fun value =>
  (computedCallee.node? value).or (some (.ofKind "ghost" (.const (.string "\"ghost\""))))

theorem computed_callee_haunted :
    computedCallee.validate = .ok () ∧ computedCallee.ExtendedBy haunted ∧
      (haunted ⟨8⟩).isSome = true ∧
      textsFrom (.ofConfig haunted .default .none) ⟨3⟩ 0 3 = ["né"] ∧
      (haunted.call? ⟨7⟩).map ClassifiedCall.name = some "getter" := by
  have valid : computedCallee.validate = .ok () := by cbv
  have answers : computedCallee.ExtendedBy haunted := by
    intro value inside
    obtain ⟨index⟩ := value
    have known : computedCallee.nodes[index]? = some computedCallee.nodes[index] :=
      Array.getElem?_eq_getElem inside
    simp only [haunted, ValueGraph.node?, known, Option.some_or]
  have texts := (validated_lookups_inside.2 computedCallee haunted ⟨3⟩ valid answers
    (by decide)).1 .default .none 0 3
  have call := (validated_lookups_inside.2 computedCallee haunted ⟨7⟩ valid answers (by decide)).2
  refine ⟨valid, answers, by decide, ?_, ?_⟩
  · rw [texts.1]
    decide +kernel
  · rw [call]
    decide +kernel

end Resolve

end LiteralFlow
