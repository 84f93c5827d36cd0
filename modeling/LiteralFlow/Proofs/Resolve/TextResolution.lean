import LiteralFlow.Proofs.Resolve.TextDenotation

/-!
Resolution of texts against their denotation: one lemma for what each kind of
value gives, then soundness by induction on the budget and completeness by
induction on the denotation.
-/

namespace LiteralFlow.Resolve

theorem only_eq_some_iff {α : Type} {candidates : Candidates α} {value : α} :
    Candidates.only? candidates = some value ↔ candidates = [value] := by
  match candidates with
  | [] => simp [Candidates.only?]
  | [first] => simp [Candidates.only?]
  | first :: second :: rest => simp [Candidates.only?]

theorem mem_concatenate_iff {xs ys : Candidates String} {text : String} :
    text ∈ concatenate xs ys ↔ ∃ x ∈ xs, ∃ y ∈ ys, x ++ y = text := by
  simp only [concatenate, List.mem_flatMap, List.mem_map]

theorem mem_slice_text_iff {lookup : Lookup} {base : ValueId} {low high : Option ValueId}
    {descent : Descent} {text part : String} (within : descent.depth ≤ descent.bound) :
    part ∈ sliceText lookup base low high descent text ↔
      ∃ lo hi ofLow ofHigh, ofLow < descent.bound + 1 - descent.depth ∧
        ofHigh < descent.bound + 1 - descent.depth ∧
        DenotesBound lookup base text 0 low lo ofLow ∧
        DenotesBound lookup base text (wordLength text) high hi ofHigh ∧
        IsCut text lo hi part := by
  simp only [sliceText, cuts, List.mem_flatMap, List.mem_filterMap, substring_eq_some_iff]
  rw [← length_of_eq]
  constructor
  · intro found
    rcases found with ⟨lo, lowMember, hi, highMember, cut⟩
    obtain ⟨ofLow, lowBelow, denotesLow⟩ := (mem_bound_candidates_iff within).mp lowMember
    obtain ⟨ofHigh, highBelow, denotesHigh⟩ := (mem_bound_candidates_iff within).mp highMember
    exact ⟨lo, hi, ofLow, ofHigh, lowBelow, highBelow, denotesLow, denotesHigh, cut⟩
  · intro denoted
    rcases denoted with ⟨lo, hi, ofLow, ofHigh, lowBelow, highBelow, denotesLow, denotesHigh, cut⟩
    exact ⟨lo, (mem_bound_candidates_iff within).mpr ⟨ofLow, lowBelow, denotesLow⟩,
      hi, (mem_bound_candidates_iff within).mpr ⟨ofHigh, highBelow, denotesHigh⟩, cut⟩

theorem map_to_option_eq_some_iff {tokens texts : List String} :
    (tokens.mapM fun token => (Literal.unquote token).toOption) = some texts ↔
      tokens.map Literal.unquote = texts.map .ok := by
  induction tokens generalizing texts with
  | nil => cases texts <;> simp
  | cons token tokens induction =>
      cases unquoted : Literal.unquote token with
      | error cause =>
          have undecoded : (Literal.unquote token).toOption = none := by
            rw [unquoted]
            rfl
          rw [List.mapM_cons, undecoded]
          cases texts <;> simp [unquoted]
      | ok text =>
          have decoded : (Literal.unquote token).toOption = some text := by
            rw [unquoted]
            rfl
          rw [List.mapM_cons, decoded]
          cases texts with
          | nil => simp [Option.bind_eq_some_iff]
          | cons first texts =>
              simp [unquoted, induction, Option.bind_eq_some_iff]
              exact And.comm

theorem listed_texts_eq_some_iff {context : TextContext} {elements : ValueId}
    {texts : List String} :
    listedTexts? context elements = some texts ↔ Listed context elements texts := by
  simp only [listedTexts?, Listed, Option.bind_eq_bind, Option.bind_eq_some_iff,
    map_to_option_eq_some_iff]
  constructor
  · intro found
    rcases found with ⟨node, known, span, place, tokens, listing, decoded, unquoted, result⟩
    split at result
    · cases result
    · rename_i nonempty
      cases result
      exact ⟨by simpa using nonempty, node, span, tokens, known, place, listing, unquoted⟩
  · intro listed
    rcases listed with ⟨nonempty, node, span, tokens, known, place, listing, unquoted⟩
    refine ⟨node, known, span, place, tokens, listing, texts, unquoted, ?_⟩
    rw [if_neg (by simpa using nonempty)]

theorem mem_format_plan_iff {call : ClassifiedCall} {answer : ValueId → Candidates String}
    {text : String} :
    text ∈ (formatPlan call).run answer ↔
      ∃ first format, call.args[0]? = some first ∧ answer first = [format] ∧
        Format.emulate? format = some text := by
  simp only [formatPlan]
  cases argument : call.args[0]? with
  | none => simp [Plan.run]
  | some first =>
      simp [Plan.run, Option.bind_eq_some_iff, only_eq_some_iff]

theorem mem_join_plan_iff {context : TextContext} {call : ClassifiedCall}
    {answer : ValueId → Candidates String} {text : String} :
    text ∈ (joinPlan context call).run answer ↔
      ∃ elements second separator texts, call.args[0]? = some elements ∧
        call.args[1]? = some second ∧ answer second = [separator] ∧
        Listed context elements texts ∧ separator.intercalate texts = text := by
  simp only [joinPlan]
  cases first : call.args[0]? with
  | none => simp [Plan.run]
  | some elements =>
      cases last : call.args[1]? with
      | none => simp [Plan.run]
      | some second =>
          simp [Plan.run, Option.bind_eq_some_iff, only_eq_some_iff, listed_texts_eq_some_iff]

/-- What a call gives, from what its arguments give. -/
theorem mem_call_plan_iff {context : TextContext} {site : CallSite}
    {answer : ValueId → Candidates String} {text : String} :
    text ∈ (callPlan context site).run answer ↔
      (IsFormat context site ∧ ∃ first format, site.args[0]? = some first ∧
        answer first = [format] ∧ Format.emulate? format = some text) ∨
      (IsJoin context site ∧ ∃ elements second separator texts,
        site.args[0]? = some elements ∧ site.args[1]? = some second ∧
        answer second = [separator] ∧ Listed context elements texts ∧
        separator.intercalate texts = text) := by
  simp only [callPlan, IsFormat, IsJoin]
  by_cases function : (site.classify context.lookup).kind = .staticFunction
  · rw [if_neg (by simpa using function), ← CallSite.static_function_args function]
    by_cases format : context.formatPattern.accepts (site.classify context.lookup) = true
    · rw [if_pos format, mem_format_plan_iff]
      simp [function, format]
    · rw [if_neg format]
      by_cases join : context.joinPattern.accepts (site.classify context.lookup) = true
      · rw [if_pos join, mem_join_plan_iff]
        simp [function, format, join]
      · rw [if_neg join]
        simp [Plan.run, format, join]
  · rw [if_pos function]
    simp [Plan.run, function]

section Walk

variable {context : TextContext} {bound budget : Nat} {id : ValueId} {text : String}

theorem walk_text_concatenation {x y : ValueId}
    (kind : context.lookup.kind? id = some (.binary .add x y)) :
    walk context.lookup (textRules context) bound (budget + 1) id =
      concatenate (walk context.lookup (textRules context) bound budget x)
        (walk context.lookup (textRules context) bound budget y) := by
  obtain ⟨node, found, isBinary⟩ := Lookup.kind_eq_some_iff.mp kind
  rw [walk_plan found (by simp [isBinary]) (by simp [isBinary])]
  simp only [textRules, textPlan, isBinary, Plan.run]

theorem walk_text_slice {base : ValueId} {low high : Option ValueId}
    (kind : context.lookup.kind? id = some (.slice base low high)) :
    walk context.lookup (textRules context) bound (budget + 1) id =
      (walk context.lookup (textRules context) bound budget base).flatMap
        (sliceText context.lookup base low high ⟨bound + 1 - budget, bound⟩) := by
  obtain ⟨node, found, isSlice⟩ := Lookup.kind_eq_some_iff.mp kind
  rw [walk_plan found (by simp [isSlice]) (by simp [isSlice])]
  simp only [textRules, textPlan, isSlice, Plan.run]

theorem walk_text_call {site : CallSite}
    (kind : context.lookup.kind? id = some (.call site)) :
    walk context.lookup (textRules context) bound (budget + 1) id =
      (callPlan context site).run (walk context.lookup (textRules context) bound budget) := by
  obtain ⟨node, found, isCall⟩ := Lookup.kind_eq_some_iff.mp kind
  rw [walk_plan found (by simp [isCall]) (by simp [isCall])]
  simp only [textRules, textPlan, isCall]

/-- One step at a concatenation, by depth instead of budget. -/
theorem texts_from_concatenation {x y : ValueId} {depth : Nat} (within : depth ≤ bound)
    (kind : context.lookup.kind? id = some (.binary .add x y)) :
    textsFrom context id depth bound =
      concatenate (textsFrom context x (depth + 1) bound)
        (textsFrom context y (depth + 1) bound) := by
  have budgets : bound + 1 - depth = bound + 1 - (depth + 1) + 1 := by omega
  simp only [textsFrom, resolveFrom]
  rw [budgets]
  exact walk_text_concatenation kind

/-- One step at a slice, whose bounds are resolved as deep as its base. -/
theorem texts_from_slice {base : ValueId} {low high : Option ValueId} {depth : Nat}
    (within : depth ≤ bound) (kind : context.lookup.kind? id = some (.slice base low high)) :
    textsFrom context id depth bound =
      (textsFrom context base (depth + 1) bound).flatMap
        (sliceText context.lookup base low high ⟨depth + 1, bound⟩) := by
  have budgets : bound + 1 - depth = bound + 1 - (depth + 1) + 1 := by omega
  have deeper : bound + 1 - (bound + 1 - (depth + 1)) = depth + 1 := by omega
  simp only [textsFrom, resolveFrom]
  rw [budgets, walk_text_slice kind, deeper]

inductive Textual : ValueKind → Prop where
  | literal (source : String) : Textual (.const (.string source))
  | phi (edges : List ValueId) : Textual (.phi edges)
  | concatenation (x y : ValueId) : Textual (.binary .add x y)
  | slice (base : ValueId) (low high : Option ValueId) : Textual (.slice base low high)
  | call (site : CallSite) : Textual (.call site)

theorem walk_text_other {kind : ValueKind} (isKind : context.lookup.kind? id = some kind)
    (other : ¬ Textual kind) :
    walk context.lookup (textRules context) bound budget id = [] := by
  obtain ⟨node, found, same⟩ := Lookup.kind_eq_some_iff.mp isKind
  cases budget with
  | zero => rfl
  | succ budget =>
      cases kind with
      | const literal =>
          rw [walk_const isKind]
          cases literal with
          | string source => exact absurd (.literal source) other
          | _ => rfl
      | phi edges => exact absurd (.phi edges) other
      | binary op x y =>
          cases op with
          | add => exact absurd (.concatenation x y) other
          | _ =>
              rw [walk_plan found (by simp [same]) (by simp [same])]
              simp only [textRules, textPlan, same, Plan.run]
      | slice base low high => exact absurd (.slice base low high) other
      | call site => exact absurd (.call site) other
      | _ =>
          rw [walk_plan found (by simp [same]) (by simp [same])]
          simp only [textRules, textPlan, same, Plan.run]

theorem text_eq_some_iff {source text : String} :
    Literal.text? (.string source) = some text ↔ Literal.unquote source = .ok text := by
  simp only [Literal.text?]
  cases Literal.unquote source <;> simp [Except.toOption]

/-- Whatever the walk finds is denoted, and its height fits the budget. The bounds
of a slice are resolved with the budget of its base, which holds only while the
budget is that of some depth. -/
theorem denotes_text_of_mem_walk (within : budget ≤ bound + 1)
    (member : text ∈ walk context.lookup (textRules context) bound budget id) :
    ∃ height, height < budget ∧ DenotesText context true id text height := by
  induction budget generalizing id text with
  | zero => simp [walk] at member
  | succ budget induction =>
      have inner {operand : ValueId} {found : String}
          (inside : found ∈ walk context.lookup (textRules context) bound budget operand) :=
        induction (by omega) inside
      cases found : context.lookup.kind? id with
      | none =>
          have unknown : context.lookup id = none := by simpa [Lookup.kind?] using found
          simp [walk_unknown unknown] at member
      | some kind =>
          by_cases textual : Textual kind
          · cases textual with
            | literal source =>
                rw [walk_const found] at member
                have unquoted : Literal.unquote source = .ok text :=
                  text_eq_some_iff.mp (by simpa [textRules] using member)
                exact ⟨0, by omega, .literal found unquoted⟩
            | phi edges =>
                rw [walk_phi found] at member
                obtain ⟨edge, isEdge, inside⟩ := List.mem_flatMap.mp member
                obtain ⟨height, below, denotes⟩ := inner inside
                exact ⟨height + 1, by omega, .phi found isEdge denotes⟩
            | concatenation x y =>
                rw [walk_text_concatenation found] at member
                obtain ⟨first, leftMember, second, rightMember, rfl⟩ :=
                  mem_concatenate_iff.mp member
                obtain ⟨left, leftBelow, denotesLeft⟩ := inner leftMember
                obtain ⟨right, rightBelow, denotesRight⟩ := inner rightMember
                exact ⟨max left right + 1, by omega,
                  .concatenation found denotesLeft denotesRight⟩
            | slice base low high =>
                rw [walk_text_slice found] at member
                obtain ⟨whole, baseMember, inside⟩ := List.mem_flatMap.mp member
                obtain ⟨ofBase, baseBelow, denotes⟩ := inner baseMember
                obtain ⟨lo, hi, ofLow, ofHigh, lowBelow, highBelow, denotesLow, denotesHigh,
                  cut⟩ := (mem_slice_text_iff (by dsimp only; omega)).mp inside
                dsimp only at lowBelow highBelow
                exact ⟨max ofBase (max ofLow ofHigh) + 1, by omega,
                  .slice found denotes denotesLow denotesHigh cut⟩
            | call site =>
                rw [walk_text_call found, mem_call_plan_iff] at member
                rcases member with ⟨isFormat, first, format, argument, only, emulated⟩ |
                  ⟨isJoin, elements, second, separator, texts, argument, separatorArgument,
                    only, listed, rfl⟩
                · have inside :
                      format ∈ walk context.lookup (textRules context) bound budget first := by
                    rw [only]
                    exact List.mem_singleton_self format
                  obtain ⟨height, below, denotes⟩ := inner inside
                  exact ⟨height + 1, by omega,
                    .format rfl found isFormat argument denotes emulated⟩
                · have inside :
                      separator ∈ walk context.lookup (textRules context) bound budget second := by
                    rw [only]
                    exact List.mem_singleton_self separator
                  obtain ⟨height, below, denotes⟩ := inner inside
                  exact ⟨height + 1, by omega,
                    .join rfl found isJoin argument separatorArgument listed denotes⟩
          · rw [walk_text_other found textual] at member
            simp at member

end Walk

theorem denotes_of_mem_texts_from {context : TextContext} {id : ValueId} {depth bound : Nat}
    {text : String} (member : text ∈ textsFrom context id depth bound) :
    depth ≤ bound ∧
      ∃ height, height ≤ bound - depth ∧ DenotesText context true id text height := by
  obtain ⟨height, below, denotes⟩ := denotes_text_of_mem_walk (by omega) member
  obtain ⟨within, fits⟩ := (height_lt_budget_iff height depth bound).mp below
  exact ⟨within, height, fits, denotes⟩

end LiteralFlow.Resolve
