import LiteralFlow.Config.Decode
import LiteralFlow.Proofs.Resolve.Walk

/-!
Resolution told as runs. A run counts depths upward and knows no budget: it checks
the depth of each question against the bound, computes the next depth in a word,
and goes on. That it ends is a theorem here and not part of what a run is.

Resolvers of several types can take part in one run, as a resolver of texts does
that has bounds of slices resolved as integers.
-/

namespace LiteralFlow.Resolve

/-- How one of several resolvers resolves a value: it may ask each of them for the
candidates of any values, as often as it likes, before it gives its own. -/
inductive Strategy {ι : Type} (Value : ι → Type) (α : Type) where
  | found (candidates : Candidates α)
  | ask (resolver : ι) (operand : ValueId)
      (next : Candidates (Value resolver) → Strategy Value α)

/-- Resolvers over one graph that may ask each other. -/
structure Family {ι : Type} (Value : ι → Type) where
  literal? : ∀ resolver, Literal → Option (Value resolver)
  strategy : ∀ resolver, ValueNode → Descent → Strategy Value (Value resolver)

variable {ι : Type} {Value : ι → Type} {α : Type}

namespace Strategy

def run (answer : ∀ resolver, ValueId → Candidates (Value resolver)) :
    Strategy Value α → Candidates α
  | found candidates => candidates
  | ask resolver operand next => (next (answer resolver operand)).run answer

def visits (answer : ∀ resolver, ValueId → Candidates (Value resolver))
    (inner : ι → ValueId → List Visit) : Strategy Value α → List Visit
  | found _ => []
  | ask resolver operand next =>
      inner resolver operand ++ (next (answer resolver operand)).visits answer inner

def gather (resolver : ι) (found : Candidates (Value resolver)) :
    List ValueId → Strategy Value (Value resolver)
  | [] => .found found
  | edge :: edges =>
      .ask resolver edge fun candidates => gather resolver (found ++ candidates) edges

theorem run_gather (answer : ∀ resolver, ValueId → Candidates (Value resolver))
    (resolver : ι) (found : Candidates (Value resolver)) (edges : List ValueId) :
    (gather resolver found edges).run answer = found ++ edges.flatMap (answer resolver) := by
  induction edges generalizing found with
  | nil => simp [gather, run]
  | cons edge edges induction =>
      simp only [gather, run, induction, List.flatMap_cons, List.append_assoc]

theorem visits_gather (answer : ∀ resolver, ValueId → Candidates (Value resolver))
    (inner : ι → ValueId → List Visit) (resolver : ι) (found : Candidates (Value resolver))
    (edges : List ValueId) :
    (gather resolver found edges).visits answer inner = edges.flatMap (inner resolver) := by
  induction edges generalizing found with
  | nil => rfl
  | cons edge edges induction =>
      simp only [gather, visits, induction, List.flatMap_cons]

end Strategy

/-- A plan as a strategy of one resolver that asks only itself. -/
def Plan.strategy (resolver : ι) : Plan (Value resolver) → Strategy Value (Value resolver)
  | found candidates => .found candidates
  | ask operand next => .ask resolver operand fun candidates => (next candidates).strategy resolver

theorem Plan.run_strategy (answer : ∀ resolver, ValueId → Candidates (Value resolver))
    (resolver : ι) (plan : Plan (Value resolver)) :
    (plan.strategy resolver).run answer = plan.run (answer resolver) := by
  induction plan with
  | found candidates => rfl
  | ask operand next induction => exact induction (answer resolver operand)

theorem Plan.visits_strategy (answer : ∀ resolver, ValueId → Candidates (Value resolver))
    (inner : ι → ValueId → List Visit) (resolver : ι) (plan : Plan (Value resolver)) :
    (plan.strategy resolver).visits answer inner =
      plan.visits (answer resolver) (inner resolver) := by
  induction plan with
  | found candidates => rfl
  | ask operand next induction =>
      exact congrArg (inner resolver operand ++ ·) (induction (answer resolver operand))

/-- What a run gives: the candidates, the visits in their order, and the number of
steps in the longest chain of nested ones. -/
structure Outcome (α : Type) where
  candidates : Candidates α
  visits : List Visit
  height : Nat

namespace Family

def body (family : Family Value) (lookup : Lookup) (resolver : ι) (id : ValueId)
    (descent : Descent) : Strategy Value (Value resolver) :=
  match lookup id with
  | none => .found []
  | some node =>
      match node.kind with
      | .const literal => .found (family.literal? resolver literal).toList
      | .phi edges => Strategy.gather resolver [] edges
      | _ => family.strategy resolver node descent

/-- The visits at a value. Only where a strategy is used there is a visit of the
value itself. -/
def visited (lookup : Lookup) (id : ValueId) (descent : Descent) (inner : List Visit) :
    List Visit :=
  match lookup id with
  | none => inner
  | some node =>
      match node.kind with
      | .const _ => inner
      | .phi _ => inner
      | _ => [.mk node descent inner]

/-- A strategy runs to its end when its questions are asked at `depth`. A question
beyond the bound is refused. Any other one is a step: the next depth, which has to
fit a word, is that of all questions inside it. -/
inductive Runs (family : Family Value) (lookup : Lookup) (bound : Nat) :
    {α : Type} → Nat → Strategy Value α → Outcome α → Prop where
  | found {α : Type} {depth : Nat} (candidates : Candidates α) :
      Runs family lookup bound depth (.found candidates) ⟨candidates, [], 0⟩
  | refused {α : Type} {depth : Nat} {resolver : ι} {id : ValueId}
      {next : Candidates (Value resolver) → Strategy Value α} {outcome : Outcome α}
      (beyond : bound < depth)
      (rest : Runs family lookup bound depth (next []) outcome) :
      Runs family lookup bound depth (.ask resolver id next) outcome
  | step {α : Type} {depth : Nat} {resolver : ι} {id : ValueId}
      {next : Candidates (Value resolver) → Strategy Value α}
      {inner : Outcome (Value resolver)} {outcome : Outcome α}
      (within : depth ≤ bound) (fits : depth + 1 < ResolverConfig.depthLimit)
      (inside : Runs family lookup bound (depth + 1)
        (family.body lookup resolver id ⟨depth + 1, bound⟩) inner)
      (rest : Runs family lookup bound depth (next inner.candidates) outcome) :
      Runs family lookup bound depth (.ask resolver id next)
        ⟨outcome.candidates,
          visited lookup id ⟨depth + 1, bound⟩ inner.visits ++ outcome.visits,
          max (inner.height + 1) outcome.height⟩

def Resolves (family : Family Value) (lookup : Lookup) (bound : Nat) (resolver : ι)
    (id : ValueId) (depth : Nat) (outcome : Outcome (Value resolver)) : Prop :=
  family.Runs lookup bound depth (.ask resolver id .found) outcome

/-- Candidates for each question at each depth, as the steps of runs require them. -/
structure Solves (family : Family Value) (lookup : Lookup) (bound : Nat)
    (resolve : ∀ resolver, ValueId → Nat → Candidates (Value resolver)) : Prop where
  beyond : ∀ {resolver id depth}, bound < depth → resolve resolver id depth = []
  within : ∀ {resolver id depth}, depth ≤ bound →
    resolve resolver id depth = (family.body lookup resolver id ⟨depth + 1, bound⟩).run
      fun resolver operand => resolve resolver operand (depth + 1)

/-- Visits for each question at each depth, as the steps of runs require them. -/
structure Records (family : Family Value) (lookup : Lookup) (bound : Nat)
    (resolve : ∀ resolver, ValueId → Nat → Candidates (Value resolver))
    (seen : ι → ValueId → Nat → List Visit) : Prop where
  beyond : ∀ {resolver id depth}, bound < depth → seen resolver id depth = []
  within : ∀ {resolver id depth}, depth ≤ bound →
    seen resolver id depth = visited lookup id ⟨depth + 1, bound⟩
      ((family.body lookup resolver id ⟨depth + 1, bound⟩).visits
        (fun resolver operand => resolve resolver operand (depth + 1))
        fun resolver operand => seen resolver operand (depth + 1))

variable {family : Family Value} {lookup : Lookup} {bound : Nat}

/-- Every strategy runs to its end, from whatever depth. -/
theorem exists_run (small : bound + 1 < ResolverConfig.depthLimit) (depth : Nat)
    (strategy : Strategy Value α) : ∃ outcome, family.Runs lookup bound depth strategy outcome := by
  -- Each step takes one from the depths that are left, and a strategy asks finitely often.
  induction left : bound + 1 - depth generalizing α depth with
  | zero =>
      induction strategy with
      | found candidates => exact ⟨_, .found candidates⟩
      | ask resolver id next induction =>
          obtain ⟨outcome, rest⟩ := induction []
          exact ⟨outcome, .refused (by omega) rest⟩
  | succ rest deeper =>
      induction strategy with
      | found candidates => exact ⟨_, .found candidates⟩
      | ask resolver id next induction =>
          obtain ⟨inner, inside⟩ := deeper (depth + 1)
            (family.body lookup resolver id ⟨depth + 1, bound⟩) (by omega)
          obtain ⟨outcome, rest⟩ := induction inner.candidates
          exact ⟨_, .step (by omega) (by omega) inside rest⟩

theorem candidates_of_run {resolve : ∀ resolver, ValueId → Nat → Candidates (Value resolver)}
    (solves : family.Solves lookup bound resolve) {depth : Nat} {strategy : Strategy Value α}
    {outcome : Outcome α} (runs : family.Runs lookup bound depth strategy outcome) :
    outcome.candidates = strategy.run fun resolver id => resolve resolver id depth := by
  induction runs with
  | found candidates => rfl
  | refused beyond _ rest => rw [rest, Strategy.run, solves.beyond beyond]
  | step within _ _ _ inside rest =>
      rw [rest, inside, Strategy.run, solves.within within]

theorem visits_of_run {resolve : ∀ resolver, ValueId → Nat → Candidates (Value resolver)}
    {seen : ι → ValueId → Nat → List Visit} (solves : family.Solves lookup bound resolve)
    (records : family.Records lookup bound resolve seen) {depth : Nat}
    {strategy : Strategy Value α} {outcome : Outcome α}
    (runs : family.Runs lookup bound depth strategy outcome) :
    outcome.visits = strategy.visits (fun resolver id => resolve resolver id depth)
      fun resolver id => seen resolver id depth := by
  induction runs with
  | found candidates => rfl
  | refused beyond _ rest =>
      rw [rest, Strategy.visits, records.beyond beyond, solves.beyond beyond, List.nil_append]
  | step within _ inner _ inside rest =>
      rw [rest, inside, candidates_of_run solves inner, Strategy.visits, records.within within,
        solves.within within]

end Family

/-- A visit that counts depths as it should: it is at a known value for which the
walk itself has no rule, it reports the bound and a depth beyond `depth` and at most
one beyond the bound, and the visits inside it go deeper than that. -/
inductive Visit.Accounted (lookup : Lookup) (bound : Nat) : Nat → Visit → Prop where
  | mk {depth : Nat} {node : ValueNode} {descent : Descent} {inner : List Visit}
      (known : ∃ id, lookup id = some node)
      (notConst : ∀ literal, node.kind ≠ .const literal)
      (notPhi : ∀ edges, node.kind ≠ .phi edges)
      (sameBound : descent.bound = bound)
      (deeper : depth < descent.depth) (within : descent.depth ≤ bound + 1)
      (nested : ∀ visit ∈ inner, Accounted lookup bound descent.depth visit) :
      Accounted lookup bound depth (.mk node descent inner)

namespace Family

variable {family : Family Value} {lookup : Lookup} {bound : Nat}

theorem accounted_of_deeper {depth depth' : Nat} {visit : Visit} (deeper : depth ≤ depth')
    (accounted : visit.Accounted lookup bound depth') : visit.Accounted lookup bound depth := by
  cases accounted with
  | mk known notConst notPhi sameBound below within nested =>
      exact .mk known notConst notPhi sameBound (by omega) within nested

/-- One step adds at most the visit of its own value. -/
theorem visited_accounted {depth : Nat} {id : ValueId} {inner : List Visit}
    (within : depth ≤ bound)
    (accounted : ∀ visit ∈ inner, visit.Accounted lookup bound (depth + 1)) :
    ∀ visit ∈ visited lookup id ⟨depth + 1, bound⟩ inner, visit.Accounted lookup bound depth := by
  have unchanged : ∀ visit ∈ inner, visit.Accounted lookup bound depth := fun visit member =>
    accounted_of_deeper (by omega) (accounted visit member)
  cases found : lookup id with
  | none => simpa only [visited, found] using unchanged
  | some node =>
      cases sort : node.kind with
      | const literal => simpa only [visited, found, sort] using unchanged
      | phi edges => simpa only [visited, found, sort] using unchanged
      | _ =>
          simp only [visited, found, sort, List.mem_singleton, forall_eq]
          exact .mk ⟨id, found⟩ (by simp [sort]) (by simp [sort]) rfl (by simp)
            (by simpa using within) accounted

/-- Every run accounts for its visits, and none of its chains of nested steps is
longer than the depths left. -/
theorem run_accounted {depth : Nat} {strategy : Strategy Value α} {outcome : Outcome α}
    (runs : family.Runs lookup bound depth strategy outcome) :
    (∀ visit ∈ outcome.visits, visit.Accounted lookup bound depth) ∧
      outcome.height ≤ bound + 1 - depth := by
  induction runs with
  | found candidates => simp
  | refused _ _ rest => exact rest
  | step within _ _ _ inside rest =>
      -- What is inside was asked one deeper, and what comes after at the same depth.
      constructor
      · intro visit member
        rcases List.mem_append.mp member with own | later
        · exact visited_accounted within inside.1 visit own
        · exact rest.1 visit later
      · have insideHeight := inside.2
        have restHeight := rest.2
        dsimp only
        omega

end Family

end LiteralFlow.Resolve
