import LiteralFlow.Proofs.Resolve.DepthAccounting

/-!
Only the depths that are left count. A resolver that does not look at depths itself finds
the same from two depths under two bounds, whenever the bounds leave the same number of
depths. Texts are resolved together with the integers inside slices here, since each hands
its depth on to the other.
-/

namespace LiteralFlow.Resolve

/-- What a search finds that starts anew with the depths that are left at `descent`, and
nothing if none is left. -/
def Descent.afresh {α : Type} (descent : Descent) (search : Nat → Candidates α) : Candidates α :=
  if descent.depth ≤ descent.bound then search (descent.bound - descent.depth) else []

namespace Family

variable {ι : Type} {Value : ι → Type} {family : Family Value} {lookup : Lookup}
  {bound bound' depth depth' : Nat}

/-- No strategy depends on the depth at which it is used, or on the bound. -/
def IgnoresDescent (family : Family Value) : Prop :=
  ∀ resolver node descent descent',
    family.strategy resolver node descent = family.strategy resolver node descent'

theorem body_ignores_descent (ignores : family.IgnoresDescent) (resolver : ι) (id : ValueId)
    (descent descent' : Descent) :
    family.body lookup resolver id descent = family.body lookup resolver id descent' := by
  cases found : lookup id with
  | none => simp only [body, found]
  | some node =>
      have same := ignores resolver node descent descent'
      cases sort : node.kind with
      | const literal => simp only [body, found, sort]
      | phi edges => simp only [body, found, sort]
      | _ => simp only [body, found, sort, same]

/-- Candidates under two bounds agree wherever the same number of depths is left. -/
theorem Solves.eq_of_depths_left (ignores : family.IgnoresDescent)
    {resolve resolve' : ∀ resolver, ValueId → Nat → Candidates (Value resolver)}
    (solves : family.Solves lookup bound resolve) (solves' : family.Solves lookup bound' resolve')
    (resolver : ι) (id : ValueId) (left : bound + 1 - depth = bound' + 1 - depth') :
    resolve resolver id depth = resolve' resolver id depth' := by
  -- The induction is on the depths left, which both sides share from one step to the next.
  induction rest : bound + 1 - depth generalizing resolver id depth depth' with
  | zero => rw [solves.beyond (by omega), solves'.beyond (by omega)]
  | succ rest deeper =>
      have answers : (fun resolver operand => resolve resolver operand (depth + 1)) =
          fun resolver operand => resolve' resolver operand (depth' + 1) := by
        funext resolver operand
        exact deeper resolver operand (by omega) (by omega)
      rw [solves.within (by omega), solves'.within (by omega), answers,
        body_ignores_descent ignores resolver id ⟨depth + 1, bound⟩ ⟨depth' + 1, bound'⟩]

theorem Solves.afresh (ignores : family.IgnoresDescent)
    {resolve : Nat → ∀ resolver, ValueId → Nat → Candidates (Value resolver)}
    (solves : ∀ bound, family.Solves lookup bound (resolve bound)) (resolver : ι) (id : ValueId)
    (descent : Descent) :
    resolve descent.bound resolver id descent.depth =
      descent.afresh fun rest => resolve rest resolver id 0 := by
  rw [Descent.afresh]
  split
  · exact (solves _).eq_of_depths_left ignores (solves _) resolver id (by omega)
  · exact (solves _).beyond (by omega)

end Family

theorem text_family_ignores_descent (context : TextContext) :
    (textFamily context).IgnoresDescent := by
  intro aim node descent descent'
  cases aim with
  | bound base length => rfl
  | text =>
      -- Only the plan of a slice uses the descent, and the strategy asks for its bounds instead.
      cases sort : node.kind with
      | binary op x y => cases op <;> simp only [textFamily, textStrategy, textPlan, sort]
      | _ => simp only [textFamily, textStrategy, textPlan, sort]

theorem integer_rules_ignore_descent : (Family.ofRules integerRules).IgnoresDescent :=
  fun _ _ _ _ => rfl

section Visits

variable {lookup : Lookup} {bound depth : Nat} {node : ValueNode} {descent : Descent}

theorem mem_flatten_all_iff {visits : List Visit} :
    (node, descent) ∈ Visit.flattenAll visits ↔
      ∃ visit ∈ visits, (node, descent) ∈ visit.flatten := by
  induction visits with
  | nil => simp [Visit.flattenAll]
  | cons visit visits induction => simp [Visit.flattenAll, induction]

/-- Every use of a plan, however deep inside others, reports the bound and a later depth. -/
theorem Visit.Accounted.flatten {visit : Visit} (accounted : visit.Accounted lookup bound depth)
    (member : (node, descent) ∈ visit.flatten) :
    descent.bound = bound ∧ depth < descent.depth ∧ descent.depth ≤ bound + 1 := by
  induction accounted with
  | mk _ _ _ sameBound deeper within _ induction =>
      rw [Visit.flatten] at member
      rcases List.mem_cons.mp member with own | inner
      · cases own
        exact ⟨sameBound, deeper, within⟩
      · obtain ⟨visit, isInner, member⟩ := mem_flatten_all_iff.mp inner
        obtain ⟨sameBound, below, within⟩ := induction visit isInner member
        exact ⟨sameBound, by omega, within⟩

end Visits

/-- Depth and bound can be shifted together: texts and integers are resolved as before, in
every run whose depths fit the word. Wherever such a run uses a plan, inside slices and
bounds of slices as well, it reports the shifted bound, and what is resolved from there, a
text, an integer or a bound of a slice, is what starting anew with the depths left gives. -/
theorem only_depths_left_count (graph : ValueGraph) (config : ResolverConfig)
    (listings : ListingLookup) (id : ValueId) (depth bound shift : Nat)
    (small : bound + shift + 1 < ResolverConfig.depthLimit) :
    let texts := (TextResolver.ofConfig graph config).withListings listings
    let integers := IntegerResolver.ofConfig graph config
    texts.resolveFrom id (depth + shift) (bound + shift) = texts.resolveFrom id depth bound ∧
    integers.resolveFrom id (depth + shift) (bound + shift) =
      integers.resolveFrom id depth bound ∧
    (∃ outcome, (textFamily texts.context).Resolves graph.node? (bound + shift) .text id
      (depth + shift) outcome) ∧
    ∀ outcome, (textFamily texts.context).Resolves graph.node? (bound + shift) .text id
        (depth + shift) outcome →
      outcome.candidates = texts.resolveFrom id depth bound ∧
      ∀ node descent, (node, descent) ∈ Visit.flattenAll outcome.visits →
        descent.bound = bound + shift ∧ depth + shift < descent.depth ∧
          descent.depth ≤ bound + shift + 1 ∧
        ∀ operand,
          texts.resolveFrom operand descent.depth descent.bound =
            descent.afresh (texts.resolveFrom operand 0) ∧
          integers.resolveFrom operand descent.depth descent.bound =
            descent.afresh (integers.resolveFrom operand 0) ∧
          ∀ base length absent,
            boundCandidates graph.node? base length absent descent (some operand) =
              descent.afresh fun rest =>
                boundCandidates graph.node? base length absent ⟨0, rest⟩ (some operand) := by
  intro texts integers
  have ignores := text_family_ignores_descent texts.context
  have solves (bound : Nat) : (textFamily texts.context).Solves graph.node? bound
      (aimedCandidates texts.context bound) := text_walk_solves
  have integerSolves (bound : Nat) : (Family.ofRules integerRules).Solves graph.node? bound
      fun _ id depth => integers.resolveFrom id depth bound := walk_solves
  have shifted : texts.resolveFrom id (depth + shift) (bound + shift) =
      texts.resolveFrom id depth bound :=
    (solves (bound + shift)).eq_of_depths_left ignores (solves bound) .text id (by omega)
  refine ⟨shifted, ?_, Family.exists_run small _ _, ?_⟩
  · exact (integerSolves (bound + shift)).eq_of_depths_left integer_rules_ignore_descent
      (integerSolves bound) () id (by omega)
  · intro outcome runs
    refine ⟨(Family.candidates_of_run (solves _) runs).trans shifted, ?_⟩
    intro node descent member
    obtain ⟨visit, isVisit, member⟩ := mem_flatten_all_iff.mp member
    obtain ⟨sameBound, deeper, within⟩ :=
      ((Family.run_accounted runs).1 visit isVisit).flatten member
    refine ⟨sameBound, deeper, within, ?_⟩
    intro operand
    refine ⟨Family.Solves.afresh ignores solves .text operand descent,
      Family.Solves.afresh integer_rules_ignore_descent integerSolves () operand descent, ?_⟩
    intro base length absent
    exact Family.Solves.afresh ignores solves (.bound base length) operand descent

/-- A text without its first byte, cut from an offset that grows in a loop to the byte before
its own end. -/
def nestedCuts : ValueGraph where
  function := "main.nest"
  nodes := #[
    .ofKind "text" (.const (.string "\"abcde\"")),
    .ofKind "zero" (.const (.int "0")),
    .ofKind "one" (.const (.int "1")),
    .ofKind "len" (.builtin "len"),
    .ofKind "size" (.call ⟨.direct ⟨3⟩, [⟨0⟩]⟩),
    .ofKind "inner" (.slice ⟨0⟩ (some ⟨2⟩) (some ⟨4⟩)),
    .ofKind "offset" (.phi [⟨1⟩, ⟨7⟩]),
    .ofKind "next" (.binary .add ⟨6⟩ ⟨2⟩),
    .ofKind "length" (.call ⟨.direct ⟨3⟩, [⟨5⟩]⟩),
    .ofKind "last" (.binary .sub ⟨8⟩ ⟨2⟩),
    .ofKind "outer" (.slice ⟨5⟩ (some ⟨6⟩) (some ⟨9⟩))]

/-- The bounds of both slices and the loop between them see the same depths left. -/
theorem nested_cuts_shift :
    let texts := (TextResolver.ofConfig nestedCuts .default).withListings .none
    5 + 7 + 1 < ResolverConfig.depthLimit ∧
      texts.resolveFrom ⟨10⟩ (1 + 7) (5 + 7) = ["bcd", "cd"] ∧
      ∃ outcome, (textFamily texts.context).Resolves nestedCuts.node? (5 + 7) .text ⟨10⟩ (1 + 7)
          outcome ∧
        outcome.candidates = ["bcd", "cd"] ∧
        ∀ node descent, (node, descent) ∈ Visit.flattenAll outcome.visits →
          boundCandidates nestedCuts.node? ⟨5⟩ 4 4 descent (some ⟨9⟩) =
            descent.afresh fun rest =>
              boundCandidates nestedCuts.node? ⟨5⟩ 4 4 ⟨0, rest⟩ (some ⟨9⟩) := by
  intro texts
  obtain ⟨shifted, -, ⟨outcome, runs⟩, nested⟩ :=
    only_depths_left_count nestedCuts .default .none ⟨10⟩ 1 5 7 (by decide)
  have found : texts.resolveFrom ⟨10⟩ 1 5 = ["bcd", "cd"] := by decide +kernel
  obtain ⟨candidates, inside⟩ := nested outcome runs
  refine ⟨by decide, shifted.trans found, outcome, runs, candidates.trans found, ?_⟩
  intro node descent member
  exact ((inside node descent member).2.2.2 ⟨9⟩).2.2 ⟨5⟩ 4 4

end LiteralFlow.Resolve
