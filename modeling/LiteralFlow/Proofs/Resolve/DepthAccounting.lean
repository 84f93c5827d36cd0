import LiteralFlow.Proofs.Resolve.Run
import LiteralFlow.Resolve.Resolver

/-!
The walk as a run: one resolver with any rules, and resolution of texts together
with the integers that it resolves inside slices. What the walk finds is what the
run finds, so what every run does with its counter, the walk does too.
-/

namespace LiteralFlow.Resolve

/-- One resolver that asks only itself. -/
def Family.ofRules {α : Type} (rules : Rules α) : Family fun _ : Unit => α where
  literal? _ := rules.literal?
  strategy _ node descent := (rules.plan node descent).strategy ()

section Walk

variable {ι : Type} {Value : ι → Type} {lookup : Lookup} {id : ValueId} {depth bound : Nat}

theorem resolve_from_beyond {α : Type} {rules : Rules α} (beyond : bound < depth) :
    resolveFrom lookup rules id depth bound = [] := by
  rw [resolveFrom, Nat.sub_eq_zero_of_le beyond, walk]

/-- What the walk finds from a depth, by what is found from the next one. -/
theorem resolve_from_body (family : Family Value) (resolver : ι)
    (rules : Rules (Value resolver))
    {answer : ∀ resolver, ValueId → Candidates (Value resolver)}
    (within : depth ≤ bound) (literal : family.literal? resolver = rules.literal?)
    (answers : ∀ operand, answer resolver operand =
      resolveFrom lookup rules operand (depth + 1) bound)
    (strategy : ∀ node, (family.strategy resolver node ⟨depth + 1, bound⟩).run answer =
      (rules.plan node ⟨depth + 1, bound⟩).run (answer resolver)) :
    resolveFrom lookup rules id depth bound =
      (family.body lookup resolver id ⟨depth + 1, bound⟩).run answer := by
  have budget : bound + 1 - depth = bound - depth + 1 := by omega
  have next : bound + 1 - (bound - depth) = depth + 1 := by omega
  have inner : answer resolver = walk lookup rules bound (bound - depth) := by
    funext operand
    rw [answers, resolveFrom, Nat.add_sub_add_right]
  rw [resolveFrom, budget]
  cases found : lookup id with
  | none => simp only [walk, Family.body, found, Strategy.run]
  | some node =>
      cases sort : node.kind with
      | const value => simp only [walk, Family.body, found, sort, Strategy.run, literal]
      | phi edges =>
          simp only [walk, Family.body, found, sort, Strategy.run_gather, List.nil_append, inner]
      | _ => simp only [walk, Family.body, found, sort, strategy, inner, next]

end Walk

section Rules

variable {α : Type} {rules : Rules α} {lookup : Lookup} {bound : Nat}

theorem walk_solves : (Family.ofRules rules).Solves lookup bound
    fun _ id depth => resolveFrom lookup rules id depth bound where
  beyond := resolve_from_beyond
  within := by
    intro _ id depth within
    apply resolve_from_body (Family.ofRules rules) () rules within rfl
    · intro operand
      rfl
    · intro node
      exact Plan.run_strategy _ _ _

theorem visits_record : (Family.ofRules rules).Records lookup bound
    (fun _ id depth => resolveFrom lookup rules id depth bound)
    fun _ id depth => visitsFrom lookup rules id depth bound where
  beyond := by
    intro _ id depth beyond
    rw [visitsFrom, Nat.sub_eq_zero_of_le beyond, visits]
  within := by
    intro _ id depth within
    have budget : bound + 1 - depth = bound - depth + 1 := by omega
    have next : bound + 1 - (bound - depth) = depth + 1 := by omega
    have rest : bound + 1 - (depth + 1) = bound - depth := Nat.add_sub_add_right ..
    simp only [visitsFrom, resolveFrom, budget, rest]
    cases found : lookup id with
    | none => simp only [visits, Family.body, Family.visited, found, Strategy.visits]
    | some node =>
        cases sort : node.kind with
        | const value =>
            simp only [visits, Family.body, Family.visited, found, sort, Strategy.visits]
        | phi edges =>
            simp only [visits, Family.body, Family.visited, found, sort, Strategy.visits_gather]
        | _ =>
            simp only [visits, Family.body, Family.visited, found, sort, Family.ofRules,
              Plan.visits_strategy, next]

end Rules

/-- What a value is resolved as: a text, or a bound of a slice of `base`, while a
text of the given length is cut. -/
inductive Aim where
  | text
  | bound (base : ValueId) (length : Int)

abbrev Aim.Value : Aim → Type
  | text => String
  | bound .. => Int

def askBound (base : ValueId) (length absent : Int)
    (next : Candidates Int → Strategy Aim.Value String) :
    Option ValueId → Strategy Aim.Value String
  | none => next [absent]
  | some id => .ask (.bound base length) id next

/-- Cuts one text after the other, and asks for both bounds anew each time. -/
def cutEach (base : ValueId) (low high : Option ValueId) (found : Candidates String) :
    List String → Strategy Aim.Value String
  | [] => .found found
  | text :: texts =>
      askBound base (lengthOf text) 0 (fun lows =>
        askBound base (lengthOf text) (lengthOf text) (fun highs =>
          cutEach base low high (found ++ cuts text lows highs) texts) high) low

def textStrategy (context : TextContext) (node : ValueNode) (descent : Descent) :
    Strategy Aim.Value String :=
  match node.kind with
  | .slice base low high => .ask .text base (cutEach base low high [])
  | _ => (textPlan context node descent).strategy Aim.text

/-- The resolver of texts and those of integers that it starts. -/
def textFamily (context : TextContext) : Family Aim.Value where
  literal?
    | .text => Literal.text?
    | .bound .. => Literal.integer?
  strategy
    | .text => textStrategy context
    | .bound base length => fun node descent =>
        ((boundRules context.lookup base length).plan node descent).strategy (Aim.bound base length)

section Text

variable {context : TextContext} {descent : Descent}
  {answer : ∀ aim : Aim, ValueId → Candidates aim.Value}

/-- Bounds are resolved at the depth of the base, under the same bound. -/
theorem run_ask_bound {base : ValueId} {length absent : Int}
    {next : Candidates Int → Strategy Aim.Value String} {operand : Option ValueId}
    (bounds : ∀ id, answer (.bound base length) id =
      resolveFrom context.lookup (boundRules context.lookup base length) id descent.depth
        descent.bound) :
    (askBound base length absent next operand).run answer =
      (next (boundCandidates context.lookup base length absent descent operand)).run answer := by
  cases operand with
  | none => rfl
  | some id => rw [askBound, Strategy.run, bounds, boundCandidates]

theorem run_cut_each {base : ValueId} {low high : Option ValueId} {texts : List String}
    (bounds : ∀ length id, answer (.bound base length) id =
      resolveFrom context.lookup (boundRules context.lookup base length) id descent.depth
        descent.bound) (found : Candidates String) :
    (cutEach base low high found texts).run answer =
      found ++ texts.flatMap (sliceText context.lookup base low high descent) := by
  induction texts generalizing found with
  | nil => simp [cutEach, Strategy.run]
  | cons text texts induction =>
      rw [cutEach, run_ask_bound (bounds _), run_ask_bound (bounds _), induction,
        List.flatMap_cons, List.append_assoc]
      rfl

theorem run_text_strategy {node : ValueNode}
    (bounds : ∀ base length id, answer (.bound base length) id =
      resolveFrom context.lookup (boundRules context.lookup base length) id descent.depth
        descent.bound) :
    (textStrategy context node descent).run answer =
      (textPlan context node descent).run (answer .text) := by
  simp only [textStrategy]
  split
  · rename_i base low high isSlice
    simp only [textPlan, isSlice, Strategy.run, Plan.run]
    rw [run_cut_each (bounds base), List.nil_append]
  · exact Plan.run_strategy answer .text _

def aimedCandidates (context : TextContext) (bound : Nat) :
    ∀ aim : Aim, ValueId → Nat → Candidates aim.Value
  | .text, id, depth => textsFrom context id depth bound
  | .bound base length, id, depth =>
      resolveFrom context.lookup (boundRules context.lookup base length) id depth bound

theorem text_walk_solves {bound : Nat} :
    (textFamily context).Solves context.lookup bound (aimedCandidates context bound) where
  beyond := by
    intro aim id depth beyond
    cases aim with
    | text => exact resolve_from_beyond beyond
    | bound base length => exact resolve_from_beyond beyond
  within := by
    intro aim id depth within
    cases aim with
    | text =>
        apply resolve_from_body (textFamily context) .text (textRules context) within rfl
        · intro operand
          rfl
        · intro node
          exact run_text_strategy fun base length id => rfl
    | bound base length =>
        apply resolve_from_body (textFamily context) (.bound base length)
          (boundRules context.lookup base length) within rfl
        · intro operand
          rfl
        · intro node
          exact Plan.run_strategy _ _ _

end Text

/-- Resolution ends from every depth under every bound below the largest word, for
any rules and any graph, and every run finds what the walk finds. Plans are used only
at known values that are neither literals nor phis, and each use reports the bound
and a depth beyond that of the uses around it and at most one beyond the bound. This
holds for texts with the integers inside slices as for one resolver, and no chain of
nested steps, of either type, is longer than the depths left. -/
theorem resolution_accounts_for_depths {α : Type} (graph : ValueGraph) (rules : Rules α)
    (config : ResolverConfig) (listings : ListingLookup) (id : ValueId) (depth bound : Nat)
    (small : bound + 1 < ResolverConfig.depthLimit) :
    let resolver := (TextResolver.ofConfig graph config).withListings listings
    ((∃ outcome, (Family.ofRules rules).Resolves graph.node? bound () id depth outcome) ∧
      ∀ outcome, (Family.ofRules rules).Resolves graph.node? bound () id depth outcome →
        outcome.candidates = resolveFrom graph.node? rules id depth bound ∧
        outcome.visits = visitsFrom graph.node? rules id depth bound ∧
        (∀ visit ∈ outcome.visits, visit.Accounted graph.node? bound depth) ∧
        outcome.height ≤ bound + 1 - depth) ∧
    (∃ outcome, (textFamily resolver.context).Resolves graph.node? bound .text id depth
      outcome) ∧
      ∀ outcome, (textFamily resolver.context).Resolves graph.node? bound .text id depth
          outcome →
        outcome.candidates = resolver.resolveFrom id depth bound ∧
        (∀ visit ∈ outcome.visits, visit.Accounted graph.node? bound depth) ∧
        outcome.height ≤ bound + 1 - depth := by
  intro resolver
  refine ⟨⟨Family.exists_run small depth _, ?_⟩, Family.exists_run small depth _, ?_⟩
  · intro outcome runs
    obtain ⟨accounted, height⟩ := Family.run_accounted runs
    refine ⟨Family.candidates_of_run walk_solves runs, ?_, accounted, height⟩
    rw [Family.visits_of_run walk_solves visits_record runs]
    exact List.append_nil _
  · intro outcome runs
    obtain ⟨accounted, height⟩ := Family.run_accounted runs
    have solves : (textFamily resolver.context).Solves graph.node? bound
        (aimedCandidates resolver.context bound) := text_walk_solves
    exact ⟨Family.candidates_of_run solves runs, accounted, height⟩

def loopingCut : ValueGraph where
  function := "main.loop"
  nodes := #[
    .ofKind "text" (.const (.string "\"abc\"")),
    .ofKind "zero" (.const (.int "0")),
    .ofKind "one" (.const (.int "1")),
    .ofKind "offset" (.phi [⟨1⟩, ⟨4⟩]),
    .ofKind "next" (.binary .add ⟨3⟩ ⟨2⟩),
    .ofKind "tail" (.slice ⟨0⟩ (some ⟨3⟩) none)]

theorem looping_cut_accounted :
    let resolver := (TextResolver.ofConfig loopingCut .default).withListings .none
    (∃ outcome, (Family.ofRules integerRules).Resolves loopingCut.node? 4 () ⟨3⟩ 0 outcome ∧
      outcome.candidates = [0, 1] ∧
      (Visit.flattenAll outcome.visits).map (fun visit => visit.2.depth) = [2, 4]) ∧
    ∃ outcome, (textFamily resolver.context).Resolves loopingCut.node? 4 .text ⟨5⟩ 0 outcome ∧
      outcome.candidates = ["abc", "bc"] ∧ outcome.height ≤ 5 := by
  intro resolver
  constructor
  · obtain ⟨⟨⟨outcome, runs⟩, accounts⟩, -⟩ := resolution_accounts_for_depths loopingCut
      integerRules .default .none ⟨3⟩ 0 4 (by decide)
    obtain ⟨candidates, visits, -⟩ := accounts outcome runs
    refine ⟨outcome, runs, ?_, ?_⟩
    · rw [candidates]
      decide +kernel
    · rw [visits]
      decide +kernel
  · obtain ⟨-, ⟨outcome, runs⟩, accounts⟩ := resolution_accounts_for_depths loopingCut
      integerRules .default .none ⟨5⟩ 0 4 (by decide)
    obtain ⟨candidates, -, height⟩ := accounts outcome runs
    have found : resolver.resolveFrom ⟨5⟩ 0 4 = ["abc", "bc"] := by decide +kernel
    exact ⟨outcome, runs, candidates.trans found, height⟩

end LiteralFlow.Resolve
