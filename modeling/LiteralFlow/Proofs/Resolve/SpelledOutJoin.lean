import LiteralFlow.Proofs.Resolve.TextResolution

/-!
A join of listed literals resolves as the sum that spells it out: the first literal,
and for each later one the separator and the literal. The sum needs a depth that
grows with the number of literals, the join only one.
-/

namespace LiteralFlow.Resolve

/-- The sum `((t₁ + s) + t₂) + ... + tₙ` of string literals with the given sources. -/
inductive SpelledOut (lookup : Lookup) (separator : String) : List String → ValueId → Prop where
  | single {id : ValueId} {token : String}
      (isToken : lookup.kind? id = some (.const (.string token))) :
      SpelledOut lookup separator [token] id
  | next {id front between mark last : ValueId} {tokens : List String} {token : String}
      (spelled : SpelledOut lookup separator tokens front)
      (isMark : lookup.kind? mark = some (.const (.string separator)))
      (isBetween : lookup.kind? between = some (.binary .add front mark))
      (isToken : lookup.kind? last = some (.const (.string token)))
      (isSum : lookup.kind? id = some (.binary .add between last)) :
      SpelledOut lookup separator (tokens ++ [token]) id

def joinedText? (separator : String) (tokens : List String) : Option String :=
  (tokens.mapM fun token => (Literal.unquote token).toOption).map separator.intercalate

variable {context : TextContext} {id : ValueId} {depth bound : Nat}
  {separator source : String} {tokens : List String}

theorem SpelledOut.nonempty {lookup : Lookup} (spelled : SpelledOut lookup source tokens id) :
    tokens ≠ [] := by
  cases spelled with
  | single => exact List.cons_ne_nil _ _
  | next => exact List.append_ne_nil_of_right_ne_nil _ (List.cons_ne_nil _ _)

theorem joined_text_single (separator token : String) :
    joinedText? separator [token] = (Literal.unquote token).toOption := by
  cases decoded : (Literal.unquote token).toOption with
  | none => simp [joinedText?, decoded]
  | some text => simp [joinedText?, decoded]

/-- One more literal adds the separator and its text. -/
theorem joined_text_concat (nonempty : tokens ≠ []) (token : String) :
    joinedText? separator (tokens ++ [token]) =
      (joinedText? separator tokens).bind fun front =>
        (Literal.unquote token).toOption.map fun last => front ++ separator ++ last := by
  simp only [joinedText?, List.mapM_append, List.mapM_cons, List.mapM_nil]
  cases decoded : tokens.mapM fun token => (Literal.unquote token).toOption with
  | none => rfl
  | some texts =>
      cases (Literal.unquote token).toOption with
      | none => rfl
      | some last =>
          have present : texts ≠ [] := by
            intro absent
            rw [absent, map_to_option_eq_some_iff, List.map_nil, List.map_eq_nil_iff] at decoded
            exact nonempty decoded
          have joined := String.intercalate_append_of_ne_nil (s := separator) present
            (List.cons_ne_nil last [])
          rw [String.intercalate_singleton] at joined
          exact congrArg some joined

theorem exists_decoded (each : ∀ token ∈ tokens, ∃ text, Literal.unquote token = .ok text) :
    ∃ texts : List String, tokens.map Literal.unquote = texts.map .ok := by
  induction tokens with
  | nil => exact ⟨[], rfl⟩
  | cons token tokens induction =>
      obtain ⟨text, unquoted⟩ := each token List.mem_cons_self
      obtain ⟨texts, decoded⟩ :=
        induction fun other later => each other (List.mem_cons_of_mem _ later)
      exact ⟨text :: texts, by rw [List.map_cons, List.map_cons, unquoted, decoded]⟩

/-- Literals of which one cannot be decoded have no joined text. -/
theorem joined_text_undecoded {token : String} (member : token ∈ tokens)
    (undecoded : ∀ text, Literal.unquote token ≠ .ok text) :
    joinedText? separator tokens = none := by
  rw [joinedText?, Option.map_eq_none_iff, Option.eq_none_iff_forall_ne_some]
  intro texts decoded
  have listed : Literal.unquote token ∈ texts.map Except.ok := by
    rw [← map_to_option_eq_some_iff.mp decoded]
    exact List.mem_map_of_mem member
  obtain ⟨text, -, unquoted⟩ := List.mem_map.mp listed
  exact undecoded text unquoted.symm

theorem concatenate_options (first second : Option String) :
    concatenate first.toList second.toList =
      (first.bind fun x => second.map fun y => x ++ y).toList := by
  cases first with
  | none => rfl
  | some x =>
      cases second with
      | none => rfl
      | some y => rfl

theorem texts_from_literal (within : depth ≤ bound)
    (kind : context.lookup.kind? id = some (.const (.string source))) :
    textsFrom context id depth bound = (Literal.unquote source).toOption.toList := by
  have budgets : bound + 1 - depth = bound + 1 - (depth + 1) + 1 := by omega
  simp only [textsFrom, resolveFrom]
  rw [budgets]
  exact walk_const kind

/-- One step at a join, whose separator is resolved one level deeper. -/
theorem texts_from_join {site : CallSite} {elements mark : ValueId} (within : depth ≤ bound)
    (kind : context.lookup.kind? id = some (.call site)) (isJoin : IsJoin context site)
    (first : site.args[0]? = some elements) (second : site.args[1]? = some mark) :
    textsFrom context id depth bound =
      ((Candidates.only? (textsFrom context mark (depth + 1) bound)).bind fun separator =>
        (listedTexts? context elements).map separator.intercalate).toList := by
  have budgets : bound + 1 - depth = bound + 1 - (depth + 1) + 1 := by omega
  obtain ⟨function, notFormat, accepted⟩ := isJoin
  rw [← CallSite.static_function_args function] at first second
  simp only [textsFrom, resolveFrom]
  rw [budgets, walk_text_call kind]
  simp only [callPlan, function, notFormat, accepted, joinPlan, first, second, Plan.run, ne_eq,
    not_true_eq_false, Bool.false_eq_true, if_false, if_true, Option.bind_eq_bind,
    Option.map_eq_bind]
  rfl

/-- The candidates of the sum, as long as its depth is within the bound. -/
theorem texts_from_spelled_out (unquoted : Literal.unquote source = .ok separator)
    (spelled : SpelledOut context.lookup source tokens id)
    (deep : depth + 2 * (tokens.length - 1) ≤ bound) :
    textsFrom context id depth bound = (joinedText? separator tokens).toList := by
  induction spelled generalizing depth with
  | single isToken =>
      rw [texts_from_literal (by omega) isToken, joined_text_single]
  | @next id front between mark last tokens token spelled isMark isBetween isToken isSum induction =>
      have positive := List.length_pos_iff.mpr spelled.nonempty
      rw [List.length_append, List.length_singleton] at deep
      have decoded : (Literal.unquote source).toOption = some separator := by
        rw [unquoted]
        rfl
      rw [texts_from_concatenation (by omega) isSum, texts_from_concatenation (by omega) isBetween,
        induction (by omega), texts_from_literal (by omega) isMark,
        texts_from_literal (by omega) isToken, concatenate_options, concatenate_options, decoded,
        joined_text_concat spelled.nonempty]
      simp only [Option.map_some, Option.bind_assoc, Option.bind_some]

/-- The candidates of the join. -/
theorem texts_from_listed_join {site : CallSite} {elements mark : ValueId} {node : ValueNode}
    {span : Span} (within : depth + 1 ≤ bound) (nonempty : tokens ≠ [])
    (unquoted : Literal.unquote source = .ok separator)
    (kind : context.lookup.kind? id = some (.call site)) (isJoin : IsJoin context site)
    (first : site.args[0]? = some elements) (second : site.args[1]? = some mark)
    (isMark : context.lookup.kind? mark = some (.const (.string source)))
    (known : context.lookup elements = some node) (place : node.span = some span)
    (listing : context.listings span = some tokens) :
    textsFrom context id depth bound = (joinedText? separator tokens).toList := by
  have only : Candidates.only? (textsFrom context mark (depth + 1) bound) = some separator := by
    rw [texts_from_literal within isMark, unquoted]
    rfl
  have listed : listedTexts? context elements =
      tokens.mapM fun token => (Literal.unquote token).toOption := by
    simp only [listedTexts?, known, place, listing, Option.bind_eq_bind, Option.bind_some]
    cases decoded : tokens.mapM fun token => (Literal.unquote token).toOption with
    | none => rfl
    | some texts =>
        cases texts with
        | nil =>
            rw [map_to_option_eq_some_iff, List.map_nil, List.map_eq_nil_iff] at decoded
            exact absurd decoded nonempty
        | cons text texts => rfl
  rw [texts_from_join (by omega) kind isJoin first second, only, listed]
  rfl

end LiteralFlow.Resolve

namespace LiteralFlow.TextResolver

open Resolve

/-- A join and the sum that spells it out have the same candidates: one when every literal
can be decoded, and none when some literal cannot. -/
theorem join_resolves_as_spelled_out (resolver : TextResolver) {tokens : List String}
    {source separator : String} {joined elements mark sum : ValueId} {site : CallSite}
    {node : ValueNode} {span : Span} (unquoted : Literal.unquote source = .ok separator)
    (isCall : resolver.graph.kind? joined = some (.call site))
    (isJoin : IsJoin resolver.context site)
    (first : site.args[0]? = some elements) (second : site.args[1]? = some mark)
    (isMark : resolver.graph.kind? mark = some (.const (.string source)))
    (known : resolver.graph.node? elements = some node) (place : node.span = some span)
    (listing : resolver.listings span = some tokens)
    (spelled : SpelledOut resolver.graph.node? source tokens sum)
    (positive : 1 ≤ resolver.maxDepth) (deep : 2 * (tokens.length - 1) ≤ resolver.maxDepth) :
    resolver.resolve joined = resolver.resolve sum ∧
      ((∀ token ∈ tokens, ∃ text, Literal.unquote token = .ok text) →
        ∃ texts : List String, tokens.map Literal.unquote = texts.map .ok ∧
          resolver.resolve joined = [separator.intercalate texts]) ∧
      ((∃ token ∈ tokens, ∀ text, Literal.unquote token ≠ .ok text) →
        resolver.resolve joined = []) := by
  have ofJoin : resolver.resolve joined = (joinedText? separator tokens).toList :=
    texts_from_listed_join (by omega) spelled.nonempty unquoted isCall isJoin first second isMark
      known place listing
  have ofSum : resolver.resolve sum = (joinedText? separator tokens).toList :=
    texts_from_spelled_out unquoted spelled (by omega)
  refine ⟨ofJoin.trans ofSum.symm, ?_, ?_⟩
  · intro each
    obtain ⟨texts, decoded⟩ := exists_decoded each
    refine ⟨texts, decoded, ?_⟩
    rw [ofJoin, joinedText?, map_to_option_eq_some_iff.mpr decoded]
    rfl
  · intro missing
    rcases missing with ⟨token, member, undecoded⟩
    rw [ofJoin, joined_text_undecoded member undecoded]
    rfl

def joinedNames : ValueGraph where
  function := "main.names"
  nodes := #[
    .ofKind "Join" (.function (.function "strings" "Join")),
    { name := "names", typeName := "[]string", span := some ⟨⟨3, 10⟩, ⟨3, 30⟩⟩,
      kind := .unmodelled },
    .ofKind "separator" (.const (.string "\", \"")),
    .ofKind "joined" (.call ⟨.direct ⟨0⟩, [⟨1⟩, ⟨2⟩]⟩),
    .ofKind "first" (.const (.string "\"Zo\\u00eb\"")),
    .ofKind "second" (.const (.string "'x'")),
    .ofKind "third" (.const (.string "`\\n`")),
    .ofKind "t0" (.binary .add ⟨4⟩ ⟨2⟩),
    .ofKind "t1" (.binary .add ⟨7⟩ ⟨5⟩),
    .ofKind "t2" (.binary .add ⟨8⟩ ⟨2⟩),
    .ofKind "t3" (.binary .add ⟨9⟩ ⟨6⟩)]

theorem names_joined :
    let tokens := ["\"Zo\\u00eb\"", "'x'", "`\\n`"]
    let index := ListingIndex.empty.addLiterals ⟨⟨3, 10⟩, ⟨3, 30⟩⟩ tokens
    let resolver :=
      ((TextResolver.ofConfig joinedNames .default).withListings index.lookup).withMaxDepth 4
    SpelledOut resolver.graph.node? "\", \"" tokens ⟨10⟩ ∧
      resolver.resolve ⟨3⟩ = resolver.resolve ⟨10⟩ ∧ resolver.resolve ⟨3⟩ = ["Zoë, x, \\n"] := by
  intro tokens index resolver
  have one : SpelledOut resolver.graph.node? "\", \"" ["\"Zo\\u00eb\""] ⟨4⟩ := .single rfl
  have two : SpelledOut resolver.graph.node? "\", \"" ["\"Zo\\u00eb\"", "'x'"] ⟨8⟩ :=
    .next one (rfl : resolver.graph.node?.kind? ⟨2⟩ = _) (rfl : resolver.graph.node?.kind? ⟨7⟩ = _)
      (rfl : resolver.graph.node?.kind? ⟨5⟩ = _) rfl
  have three : SpelledOut resolver.graph.node? "\", \"" tokens ⟨10⟩ :=
    .next two (rfl : resolver.graph.node?.kind? ⟨2⟩ = _) (rfl : resolver.graph.node?.kind? ⟨9⟩ = _)
      (rfl : resolver.graph.node?.kind? ⟨6⟩ = _) rfl
  have unquoted : Literal.unquote "\", \"" = .ok ", " := text_eq_some_iff.mp (by decide +kernel)
  have alike := join_resolves_as_spelled_out resolver unquoted
    (rfl : resolver.graph.kind? ⟨3⟩ = _) ⟨by decide +kernel, by decide +kernel, by decide +kernel⟩
    rfl rfl (rfl : resolver.graph.kind? ⟨2⟩ = _) (rfl : resolver.graph.node? ⟨1⟩ = _) rfl rfl three
    (by decide) (by decide)
  exact ⟨three, alike.1, by decide +kernel⟩

end LiteralFlow.TextResolver
