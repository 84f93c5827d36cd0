import LiteralFlow.Proofs.Resolve.TextDenotation
import Mathlib.Data.List.Basic
import Mathlib.Data.Set.Function

/-!
Resolution depends only on the shape of the values that a value reaches: their
kinds up to the names of ids, and their places. Two graphs with values of the
same shape give the same candidates.

The argument is made once for every resolver: where the plans for two values ask
for corresponding operands, the walks agree.
-/

namespace LiteralFlow

def CallMode.rename (f : ValueId → ValueId) : CallMode → CallMode
  | direct callee => .direct (f callee)
  | invoke receiver method => .invoke (f receiver) method

def CallSite.rename (f : ValueId → ValueId) (site : CallSite) : CallSite :=
  ⟨site.mode.rename f, site.args.map f⟩

def ValueKind.rename (f : ValueId → ValueId) : ValueKind → ValueKind
  | const literal => const literal
  | binary op x y => binary op (f x) (f y)
  | phi edges => phi (edges.map f)
  | call site => call (site.rename f)
  | slice base low high => slice (f base) (low.map f) (high.map f)
  | function func => function func
  | builtin name => builtin name
  | closure func bindings => closure func (bindings.map f)
  | deref x => deref (f x)
  | extract tuple index => extract (f tuple) index
  | unmodelled => unmodelled

/-- The values in `values` read only each other, and `f` takes them to values of
the same kind and place under `renamed`. Names, types and all other values are
free. -/
structure SameShape (lookup renamed : Lookup) (values : Set ValueId)
    (f : ValueId → ValueId) : Prop where
  closed : ∀ id ∈ values, ∀ kind, lookup.kind? id = some kind →
    ∀ operand ∈ kind.operands, operand ∈ values
  injective : Set.InjOn f values
  unknown : ∀ id ∈ values, lookup id = none ↔ renamed (f id) = none
  known : ∀ id ∈ values, ∀ node image, lookup id = some node → renamed (f id) = some image →
    image.kind = node.kind.rename f ∧ image.span = node.span

namespace SameShape

variable {lookup renamed : Lookup} {values : Set ValueId} {f : ValueId → ValueId}
  {id : ValueId} {node : ValueNode}

/-- A known value has a known image of the same kind and place. -/
theorem image (shape : SameShape lookup renamed values f) (inside : id ∈ values)
    (found : lookup id = some node) :
    ∃ image, renamed (f id) = some image ∧ image.kind = node.kind.rename f ∧
      image.span = node.span := by
  cases imageFound : renamed (f id) with
  | none =>
      have missing := (shape.unknown id inside).mpr imageFound
      rw [found] at missing
      cases missing
  | some image => exact ⟨image, rfl, shape.known id inside node image found imageFound⟩

theorem kind_renamed (shape : SameShape lookup renamed values f) (inside : id ∈ values) :
    renamed.kind? (f id) = (lookup.kind? id).map (ValueKind.rename f) := by
  cases found : lookup id with
  | none =>
      have missing := (shape.unknown id inside).mp found
      simp only [Lookup.kind?, found, missing, Option.map_none]
  | some node =>
      obtain ⟨image, imageFound, kind, -⟩ := shape.image inside found
      simp only [Lookup.kind?, found, imageFound, kind, Option.map_some]

theorem operand_inside (shape : SameShape lookup renamed values f) (inside : id ∈ values)
    (found : lookup id = some node) {operand : ValueId} (member : operand ∈ node.kind.operands) :
    operand ∈ values :=
  shape.closed id inside node.kind (Lookup.kind_of_node found) operand member

end SameShape

namespace Resolve

/-- Two plans that ask for corresponding values and find the same. -/
inductive Plan.Renamed {α : Type} (values : Set ValueId) (f : ValueId → ValueId) :
    Plan α → Plan α → Prop where
  | found (candidates : Candidates α) : Renamed values f (.found candidates) (.found candidates)
  | ask {operand : ValueId} {next next' : Candidates α → Plan α} (inside : operand ∈ values)
      (continues : ∀ candidates, Renamed values f (next candidates) (next' candidates)) :
      Renamed values f (.ask operand next) (.ask (f operand) next')

variable {α : Type} {lookup renamed : Lookup} {values : Set ValueId} {f : ValueId → ValueId}

theorem Plan.Renamed.run_eq {plan plan' : Plan α} (related : Plan.Renamed values f plan plan')
    {answer answer' : ValueId → Candidates α}
    (agree : ∀ id ∈ values, answer' (f id) = answer id) :
    plan'.run answer' = plan.run answer := by
  induction related with
  | found candidates => rfl
  | @ask operand next next' inside _ induction =>
      rw [Plan.run, Plan.run, agree operand inside]
      exact induction (answer operand)

structure Rules.Renamed (lookup renamed : Lookup) (values : Set ValueId)
    (f : ValueId → ValueId) (rules rules' : Rules α) : Prop where
  literal : rules'.literal? = rules.literal?
  plan : ∀ id ∈ values, ∀ node image descent, lookup id = some node →
    image.kind = node.kind.rename f →
    Plan.Renamed values f (rules.plan node descent) (rules'.plan image descent)

theorem walk_renamed {rules rules' : Rules α} {bound budget : Nat} {id : ValueId}
    (shape : SameShape lookup renamed values f)
    (related : Rules.Renamed lookup renamed values f rules rules') (inside : id ∈ values) :
    walk renamed rules' bound budget (f id) = walk lookup rules bound budget id := by
  induction budget generalizing id with
  | zero => rfl
  | succ budget induction =>
      cases found : lookup id with
      | none =>
          rw [walk_unknown found, walk_unknown ((shape.unknown id inside).mp found)]
      | some node =>
          obtain ⟨image, imageFound, kind, -⟩ := shape.image inside found
          have isKind := Lookup.kind_of_node found
          have imageKind := Lookup.kind_of_node imageFound
          rw [kind] at imageKind
          cases sort : node.kind with
          | const literal =>
              rw [sort] at isKind imageKind
              rw [walk_const isKind, walk_const imageKind, related.literal]
          | phi edges =>
              rw [sort] at isKind imageKind
              rw [walk_phi isKind, walk_phi imageKind, List.flatMap_map]
              apply List.flatMap_congr
              intro edge member
              exact induction (shape.closed id inside _ isKind edge member)
          | _ =>
              rw [walk_plan found (by simp [sort]) (by simp [sort]),
                walk_plan imageFound (by simp [kind, sort, ValueKind.rename])
                  (by simp [kind, sort, ValueKind.rename])]
              apply (related.plan id inside node image _ found kind).run_eq
              intro operand operandInside
              exact induction operandInside

theorem arithmetic_rules_renamed {known known' : CallSite → Candidates Int}
    (shape : SameShape lookup renamed values f)
    (calls : ∀ site, (∀ operand ∈ site.operands, operand ∈ values) →
      known' (site.rename f) = known site) :
    Rules.Renamed lookup renamed values f (arithmeticRules known) (arithmeticRules known') := by
  refine ⟨rfl, ?_⟩
  intro id inside node image descent found kind
  have operands {operand : ValueId} (member : operand ∈ node.kind.operands) :=
    shape.operand_inside inside found member
  simp only [arithmeticRules, kind]
  cases sort : node.kind with
  | binary op x y =>
      rw [sort] at operands
      refine .ask (operands (by simp [ValueKind.operands])) fun xs => ?_
      exact .ask (operands (by simp [ValueKind.operands])) fun ys => .found _
  | call site =>
      rw [sort] at operands
      simp only [ValueKind.rename]
      rw [calls site fun operand member => operands member]
      exact .found _
  | _ => exact .found _

theorem is_length_of_renamed {base : ValueId} {site : CallSite}
    (shape : SameShape lookup renamed values f) (baseInside : base ∈ values)
    (operands : ∀ operand ∈ site.operands, operand ∈ values) :
    isLengthOf renamed (f base) (site.rename f) = isLengthOf lookup base site := by
  rw [Bool.eq_iff_iff, is_length_of_iff, is_length_of_iff]
  have args : (site.rename f).args = [f base] ↔ site.args = [base] := by
    have inside : ∀ operand ∈ site.args, operand ∈ values := fun operand member =>
      operands operand (List.mem_cons_of_mem _ member)
    cases found : site.args with
    | nil => simp [CallSite.rename, found]
    | cons first rest =>
        have same := shape.injective.eq_iff (inside first (by simp [found])) baseInside
        simp [CallSite.rename, found, same]
  have callee : (∃ callee, (site.rename f).mode = .direct callee ∧
        renamed.kind? callee = some (.builtin "len")) ↔
      ∃ callee, site.mode = .direct callee ∧ lookup.kind? callee = some (.builtin "len") := by
    cases mode : site.mode with
    | direct callee =>
        have inside : callee ∈ values :=
          operands callee (by simp [CallSite.operands, CallSite.head, mode])
        simp only [CallSite.rename, mode, CallMode.rename, CallMode.direct.injEq,
          exists_eq_left', shape.kind_renamed inside, Option.map_eq_some_iff]
        constructor
        · intro image
          rcases image with ⟨kind, found, same⟩
          cases kind <;> simp_all [ValueKind.rename]
        · intro found
          exact ⟨_, found, rfl⟩
    | invoke receiver method => simp [CallSite.rename, mode, CallMode.rename]
  rw [args, callee]

theorem bound_rules_renamed {base : ValueId} {length : Int}
    (shape : SameShape lookup renamed values f) (baseInside : base ∈ values) :
    Rules.Renamed lookup renamed values f (boundRules lookup base length)
      (boundRules renamed (f base) length) := by
  rw [bound_rules_eq_arithmetic, bound_rules_eq_arithmetic]
  apply arithmetic_rules_renamed shape
  intro site operands
  rw [lengthCandidates, lengthCandidates, is_length_of_renamed shape baseInside operands]

theorem bound_candidates_renamed {base : ValueId} {length absent : Int} {descent : Descent}
    {bound : Option ValueId} (shape : SameShape lookup renamed values f)
    (baseInside : base ∈ values) (boundInside : ∀ id ∈ bound.toList, id ∈ values) :
    boundCandidates renamed (f base) length absent descent (bound.map f) =
      boundCandidates lookup base length absent descent bound := by
  cases bound with
  | none => rfl
  | some id =>
      exact walk_renamed shape (bound_rules_renamed shape baseInside) (boundInside id (by simp))

theorem slice_text_renamed {base : ValueId} {low high : Option ValueId} {descent : Descent}
    {text : String} (shape : SameShape lookup renamed values f) (baseInside : base ∈ values)
    (lowInside : ∀ id ∈ low.toList, id ∈ values) (highInside : ∀ id ∈ high.toList, id ∈ values) :
    sliceText renamed (f base) (low.map f) (high.map f) descent text =
      sliceText lookup base low high descent text := by
  simp only [sliceText]
  rw [bound_candidates_renamed shape baseInside lowInside,
    bound_candidates_renamed shape baseInside highInside]

/-- A call of a package function keeps its target. -/
theorem static_target_renamed {site : CallSite} {func : FunctionRef}
    (shape : SameShape lookup renamed values f)
    (operands : ∀ operand ∈ site.operands, operand ∈ values) :
    ((site.rename f).classify renamed).target = .staticFunction func ↔
      (site.classify lookup).target = .staticFunction func := by
  rw [CallSite.static_target_iff, CallSite.static_target_iff]
  cases mode : site.mode with
  | direct callee =>
      have inside : callee ∈ values :=
        operands callee (by simp [CallSite.operands, CallSite.head, mode])
      simp only [CallSite.rename, mode, CallMode.rename, CallMode.direct.injEq]
      constructor
      · intro image
        rcases image with ⟨_, reference, rfl, imageKind, static⟩
        rw [shape.kind_renamed inside, Option.map_eq_some_iff] at imageKind
        obtain ⟨kind, found, same⟩ := imageKind
        refine ⟨callee, reference, rfl, ?_, static⟩
        cases kind <;> simp_all [ValueKind.rename]
      · intro source
        rcases source with ⟨_, reference, rfl, found, static⟩
        refine ⟨f callee, reference, rfl, ?_, static⟩
        rw [shape.kind_renamed inside, found]
        rfl
  | invoke receiver method => simp [CallSite.rename, mode, CallMode.rename]

theorem accepts_of_target {pattern : CallPattern} {call call' : ClassifiedCall}
    (same : call'.target = call.target) : pattern.accepts call' = pattern.accepts call := by
  simp only [CallPattern.accepts, same]

theorem listed_texts_renamed {context : TextContext} {elements : ValueId}
    (shape : SameShape context.lookup renamed values f) (inside : elements ∈ values) :
    listedTexts? { context with lookup := renamed } (f elements) =
      listedTexts? context elements := by
  cases found : context.lookup elements with
  | none =>
      have missing := (shape.unknown elements inside).mp found
      simp only [listedTexts?, found, missing]
  | some node =>
      obtain ⟨image, imageFound, -, span⟩ := shape.image inside found
      simp only [listedTexts?, found, imageFound, span, Option.bind_eq_bind, Option.bind_some]

theorem format_plan_renamed {call call' : ClassifiedCall} (args : call'.args = call.args.map f)
    (inside : ∀ id ∈ call.args, id ∈ values) :
    Plan.Renamed values f (formatPlan call) (formatPlan call') := by
  simp only [formatPlan, args, List.getElem?_map]
  cases first : call.args[0]? with
  | none => exact .found _
  | some format => exact .ask (inside format (List.mem_of_getElem? first)) fun formats => .found _

theorem join_plan_renamed {context : TextContext} {call call' : ClassifiedCall}
    (shape : SameShape context.lookup renamed values f) (args : call'.args = call.args.map f)
    (inside : ∀ id ∈ call.args, id ∈ values) :
    Plan.Renamed values f (joinPlan context call)
      (joinPlan { context with lookup := renamed } call') := by
  simp only [joinPlan, args, List.getElem?_map]
  cases first : call.args[0]? with
  | none => exact .found _
  | some elements =>
      cases second : call.args[1]? with
      | none => exact .found _
      | some separator =>
          have elementsInside := inside elements (List.mem_of_getElem? first)
          simp only [Option.map_some, listed_texts_renamed shape elementsInside]
          exact .ask (inside separator (List.mem_of_getElem? second)) fun separators => .found _

theorem call_plan_renamed {context : TextContext} {site : CallSite}
    (shape : SameShape context.lookup renamed values f)
    (operands : ∀ operand ∈ site.operands, operand ∈ values) :
    Plan.Renamed values f (callPlan context site)
      (callPlan { context with lookup := renamed } (site.rename f)) := by
  by_cases function : (site.classify context.lookup).kind = .staticFunction
  · obtain ⟨func, target⟩ := CallSite.static_kind_iff.mp function
    have target' := (static_target_renamed shape operands).mpr target
    have function' := CallSite.static_kind_iff.mpr ⟨func, target'⟩
    have same : ((site.rename f).classify renamed).target =
        (site.classify context.lookup).target := target'.trans target.symm
    have args : ((site.rename f).classify renamed).args =
        (site.classify context.lookup).args.map f := by
      rw [CallSite.static_function_args function, CallSite.static_function_args function']
      rfl
    have inside : ∀ id ∈ (site.classify context.lookup).args, id ∈ values := by
      intro id member
      rw [CallSite.static_function_args function] at member
      exact operands id (List.mem_cons_of_mem _ member)
    simp only [callPlan, function, function', accepts_of_target same, ne_eq, not_true,
      if_false]
    split
    · exact format_plan_renamed args inside
    · split
      · exact join_plan_renamed shape args inside
      · exact .found _
  · have function' : ((site.rename f).classify renamed).kind ≠ .staticFunction := by
      intro holds
      obtain ⟨func, target⟩ := CallSite.static_kind_iff.mp holds
      exact function (CallSite.static_kind_iff.mpr
        ⟨func, (static_target_renamed shape operands).mp target⟩)
    simp only [callPlan, if_pos function, if_pos function']
    exact .found _

theorem text_rules_renamed {context : TextContext}
    (shape : SameShape context.lookup renamed values f) :
    Rules.Renamed context.lookup renamed values f (textRules context)
      (textRules { context with lookup := renamed }) := by
  refine ⟨rfl, ?_⟩
  intro id inside node image descent found kind
  have operands {operand : ValueId} (member : operand ∈ node.kind.operands) :=
    shape.operand_inside inside found member
  simp only [textRules, textPlan, kind]
  cases sort : node.kind with
  | binary op x y =>
      rw [sort] at operands
      cases op with
      | add =>
          refine .ask (operands (by simp [ValueKind.operands])) fun xs => ?_
          exact .ask (operands (by simp [ValueKind.operands])) fun ys => .found _
      | _ => exact .found _
  | call site =>
      rw [sort] at operands
      exact call_plan_renamed shape fun operand member => operands member
  | slice base low high =>
      rw [sort] at operands
      have baseInside : base ∈ values := operands (by simp [ValueKind.operands])
      have lowInside : ∀ id ∈ low.toList, id ∈ values := fun id member =>
        operands (List.mem_cons_of_mem _ (List.mem_append_left _ member))
      have highInside : ∀ id ∈ high.toList, id ∈ values := fun id member =>
        operands (List.mem_cons_of_mem _ (List.mem_append_right _ member))
      have same : sliceText renamed (f base) (low.map f) (high.map f) descent =
          sliceText context.lookup base low high descent := by
        funext text
        exact slice_text_renamed shape baseInside lowInside highInside
      simp only [ValueKind.rename, same]
      exact .ask baseInside fun texts => .found _
  | _ => exact .found _

/-- Values of the same shape have the same candidates, in the same order, for
every configuration, source text, depth and bound. -/
theorem resolution_of_same_shape (graph graph' : ValueGraph) (values : Set ValueId)
    (f : ValueId → ValueId) (shape : SameShape graph.node? graph'.node? values f)
    (id : ValueId) (inside : id ∈ values) (config : ResolverConfig) (listings : ListingLookup)
    (depth bound : Nat) :
    ((TextResolver.ofConfig graph' config).withListings listings).resolveFrom (f id) depth bound =
      ((TextResolver.ofConfig graph config).withListings listings).resolveFrom id depth bound ∧
    (IntegerResolver.ofConfig graph' config).resolveFrom (f id) depth bound =
      (IntegerResolver.ofConfig graph config).resolveFrom id depth bound := by
  constructor
  · let context := ((TextResolver.ofConfig graph config).withListings listings).context
    have rules : Rules.Renamed context.lookup graph'.node? values f (textRules context)
        (textRules { context with lookup := graph'.node? }) := text_rules_renamed shape
    exact walk_renamed shape rules inside
  · have rules : Rules.Renamed graph.node? graph'.node? values f integerRules integerRules := by
      rw [integer_rules_eq_arithmetic]
      exact arithmetic_rules_renamed shape fun site _ => rfl
    exact walk_renamed shape rules inside

/-- A text cut at its own length. -/
def measuredCut : ValueGraph where
  function := "main.cut"
  nodes := #[
    .ofKind "text" (.const (.string "\"né\"")),
    .ofKind "len" (.builtin "len"),
    .ofKind "length" (.call ⟨.direct ⟨1⟩, [⟨0⟩]⟩),
    .ofKind "part" (.slice ⟨0⟩ none (some ⟨2⟩))]

/-- The same values in the opposite order, with other names and types and behind
a value that none of them reads. -/
def reversedCut : ValueGraph where
  function := "main.other"
  nodes := #[
    .ofKind "unused" (.phi [⟨0⟩, ⟨9⟩]),
    ⟨"p", "string", none, .slice ⟨4⟩ none (some ⟨2⟩)⟩,
    ⟨"n", "int", none, .call ⟨.direct ⟨3⟩, [⟨4⟩]⟩⟩,
    ⟨"l", "func", none, .builtin "len"⟩,
    ⟨"t", "string", none, .const (.string "\"né\"")⟩]

theorem reversed_cut_resolves_alike :
    SameShape measuredCut.node? reversedCut.node? {id | id.index < 4} (fun id => ⟨4 - id.index⟩) ∧
      (TextResolver.ofConfig reversedCut .default).resolveFrom ⟨1⟩ 0 3 =
        (TextResolver.ofConfig measuredCut .default).resolveFrom ⟨3⟩ 0 3 := by
  have shape : SameShape measuredCut.node? reversedCut.node? {id | id.index < 4}
      (fun id => ⟨4 - id.index⟩) := by
    refine ⟨?_, ?_, ?_, ?_⟩
    · intro id inside kind found operand member
      obtain ⟨index⟩ := id
      rcases index with _ | _ | _ | _ | index
      all_goals cases found
      all_goals revert operand
      all_goals decide
    · intro left leftInside right rightInside same
      obtain ⟨left⟩ := left
      obtain ⟨right⟩ := right
      simp only [Set.mem_ofPred_eq, ValueId.mk.injEq] at leftInside rightInside same ⊢
      omega
    · intro id inside
      obtain ⟨index⟩ := id
      rcases index with _ | _ | _ | _ | index
      all_goals first | decide | exact absurd inside (by simp)
    · intro id inside node image found imageFound
      obtain ⟨index⟩ := id
      rcases index with _ | _ | _ | _ | index
      all_goals cases found
      all_goals cases imageFound
      all_goals exact ⟨rfl, rfl⟩
  exact ⟨shape, (resolution_of_same_shape measuredCut reversedCut _ _ shape ⟨3⟩
    (by decide) .default .none 0 3).1⟩

end Resolve

end LiteralFlow
