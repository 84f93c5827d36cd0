import LiteralFlow.Proofs.Resolve.Walk
import LiteralFlow.Resolve.Resolver

/-!
What integers a value of a graph denotes, told without depths and bounds, and
that resolution of integers finds exactly these.

A denotation has a height: the number of steps to operands on its longest way
down to a literal. A value on a cycle can denote integers of every height, and
the bound on depths says which of them the walk still finds.
-/

namespace LiteralFlow

inductive BinaryOp.Computes : BinaryOp → Int → Int → Int → Prop where
  | add (x y : Int) : Computes .add x y (x + y)
  | sub (x y : Int) : Computes .sub x y (x - y)
  | mul (x y : Int) : Computes .mul x y (x * y)
  /-- The quotient is rounded toward zero. -/
  | div (x y : Int) (nonzero : y ≠ 0) : Computes .div x y (x.tdiv y)

def Integer.InWord (n : Int) : Prop := Integer.minimum ≤ n ∧ n ≤ Integer.maximum

theorem Integer.fit_eq_some_iff {m n : Int} : fit? m = some n ↔ m = n ∧ InWord n := by
  rw [fit?, InWord]
  split
  · rename_i fits
    constructor
    · intro same
      cases same
      exact ⟨rfl, fits⟩
    · intro same
      rw [same.1]
  · rename_i outside
    constructor
    · intro same
      cases same
    · intro same
      rw [same.1] at outside
      exact absurd same.2 outside

namespace BinaryOp

theorem unbounded_eq_some_iff {op : BinaryOp} {x y n : Int} :
    op.unbounded? x y = some n ↔ op.Computes x y n := by
  constructor
  · intro result
    cases op with
    | add => cases result; exact .add x y
    | sub => cases result; exact .sub x y
    | mul => cases result; exact .mul x y
    | div =>
        simp only [unbounded?] at result
        split at result
        · cases result
        · rename_i nonzero
          cases result
          exact .div x y nonzero
  · intro computes
    cases computes with
    | add => rfl
    | sub => rfl
    | mul => rfl
    | div _ _ nonzero => simp only [unbounded?, if_neg nonzero]

theorem evaluate_eq_some_iff {op : BinaryOp} {x y n : Int} :
    op.evaluate? x y = some n ↔ op.Computes x y n ∧ Integer.InWord n := by
  simp only [evaluate?, Option.bind_eq_bind, Option.bind_eq_some_iff,
    Integer.fit_eq_some_iff, unbounded_eq_some_iff]
  constructor
  · intro found
    rcases found with ⟨_, computes, rfl, fits⟩
    exact ⟨computes, fits⟩
  · intro found
    exact ⟨n, found.1, rfl, found.2⟩

end BinaryOp

namespace Resolve

/-- The value `id` denotes `n` with the given height. Calls have the values that
`measured` gives them. -/
inductive DenotesInteger (lookup : Lookup) (measured : CallSite → Int → Prop) :
    ValueId → Int → Nat → Prop where
  | literal {id : ValueId} {source : String} {n : Int}
      (kind : lookup.kind? id = some (.const (.int source)))
      (parsed : Literal.parseInteger? source = some n) :
      DenotesInteger lookup measured id n 0
  | phi {id edge : ValueId} {edges : List ValueId} {n : Int} {height : Nat}
      (kind : lookup.kind? id = some (.phi edges)) (member : edge ∈ edges)
      (denotes : DenotesInteger lookup measured edge n height) :
      DenotesInteger lookup measured id n (height + 1)
  | binary {id x y : ValueId} {op : BinaryOp} {m n result : Int} {left right : Nat}
      (kind : lookup.kind? id = some (.binary op x y))
      (denotesLeft : DenotesInteger lookup measured x m left)
      (denotesRight : DenotesInteger lookup measured y n right)
      (computes : op.Computes m n result) (fits : Integer.InWord result) :
      DenotesInteger lookup measured id result (max left right + 1)
  | measured {id : ValueId} {site : CallSite} {n : Int}
      (kind : lookup.kind? id = some (.call site)) (value : measured site n) :
      DenotesInteger lookup measured id n 0

/-- The rules for integers when some calls have candidates of their own. -/
def arithmeticRules (known : CallSite → Candidates Int) : Rules Int where
  literal? := Literal.integer?
  plan node _ :=
    match node.kind with
    | .call site => .found (known site)
    | kind => integerPlan kind

theorem integer_rules_eq_arithmetic : integerRules = arithmeticRules fun _ => [] := by
  simp only [integerRules, arithmeticRules, Rules.mk.injEq, true_and]
  funext node descent
  cases node.kind <;> rfl

theorem mem_combine_iff {op : BinaryOp} {xs ys : Candidates Int} {n : Int} :
    n ∈ combine op xs ys ↔
      ∃ x ∈ xs, ∃ y ∈ ys, op.Computes x y n ∧ Integer.InWord n := by
  simp only [combine, List.mem_flatMap, List.mem_filterMap, BinaryOp.evaluate_eq_some_iff]

section Walk

variable {lookup : Lookup} {known : CallSite → Candidates Int} {bound budget : Nat}
  {id : ValueId} {n : Int}

theorem walk_arithmetic_binary {op : BinaryOp} {x y : ValueId}
    (kind : lookup.kind? id = some (.binary op x y)) :
    walk lookup (arithmeticRules known) bound (budget + 1) id =
      combine op (walk lookup (arithmeticRules known) bound budget x)
        (walk lookup (arithmeticRules known) bound budget y) := by
  obtain ⟨node, found, isBinary⟩ := Lookup.kind_eq_some_iff.mp kind
  rw [walk_plan found (by simp [isBinary]) (by simp [isBinary])]
  simp only [arithmeticRules, isBinary, integerPlan, Plan.run]

theorem walk_arithmetic_call {site : CallSite} (kind : lookup.kind? id = some (.call site)) :
    walk lookup (arithmeticRules known) bound (budget + 1) id = known site := by
  obtain ⟨node, found, isCall⟩ := Lookup.kind_eq_some_iff.mp kind
  rw [walk_plan found (by simp [isCall]) (by simp [isCall])]
  simp only [arithmeticRules, isCall, Plan.run]

inductive Arithmetic : ValueKind → Prop where
  | literal (source : String) : Arithmetic (.const (.int source))
  | phi (edges : List ValueId) : Arithmetic (.phi edges)
  | binary (op : BinaryOp) (x y : ValueId) : Arithmetic (.binary op x y)
  | call (site : CallSite) : Arithmetic (.call site)

theorem walk_arithmetic_other {kind : ValueKind} (isKind : lookup.kind? id = some kind)
    (other : ¬ Arithmetic kind) : walk lookup (arithmeticRules known) bound budget id = [] := by
  obtain ⟨node, found, same⟩ := Lookup.kind_eq_some_iff.mp isKind
  cases budget with
  | zero => rfl
  | succ budget =>
      cases kind with
      | const literal =>
          rw [walk_const isKind]
          cases literal with
          | int source => exact absurd (.literal source) other
          | _ => rfl
      | phi edges => exact absurd (.phi edges) other
      | binary op x y => exact absurd (.binary op x y) other
      | call site => exact absurd (.call site) other
      | _ =>
          rw [walk_plan found (by simp [same]) (by simp [same])]
          simp only [arithmeticRules, same, integerPlan, Plan.run]

/-- Whatever the walk finds is denoted, and its height fits the budget. -/
theorem denotes_of_mem_walk
    (member : n ∈ walk lookup (arithmeticRules known) bound budget id) :
    ∃ height, height < budget ∧
      DenotesInteger lookup (fun site value => value ∈ known site) id n height := by
  induction budget generalizing id n with
  | zero => simp [walk] at member
  | succ budget induction =>
      cases found : lookup.kind? id with
      | none =>
          have unknown : lookup id = none := by simpa [Lookup.kind?] using found
          simp [walk_unknown unknown] at member
      | some kind =>
          by_cases arithmetic : Arithmetic kind
          · cases arithmetic with
            | literal source =>
                rw [walk_const found] at member
                have parsed : Literal.parseInteger? source = some n := by
                  simpa [arithmeticRules, Literal.integer?] using member
                exact ⟨0, by omega, .literal found parsed⟩
            | phi edges =>
                rw [walk_phi found] at member
                obtain ⟨edge, isEdge, inner⟩ := List.mem_flatMap.mp member
                obtain ⟨height, below, denotes⟩ := induction inner
                exact ⟨height + 1, by omega, .phi found isEdge denotes⟩
            | binary op x y =>
                rw [walk_arithmetic_binary found] at member
                obtain ⟨l, leftMember, r, rightMember, computes, fits⟩ :=
                  mem_combine_iff.mp member
                obtain ⟨left, leftBelow, denotesLeft⟩ := induction leftMember
                obtain ⟨right, rightBelow, denotesRight⟩ := induction rightMember
                exact ⟨max left right + 1, by omega,
                  .binary found denotesLeft denotesRight computes fits⟩
            | call site =>
                rw [walk_arithmetic_call found] at member
                exact ⟨0, by omega, .measured found member⟩
          · rw [walk_arithmetic_other found arithmetic] at member
            simp at member

/-- A denoted integer is found by every walk whose budget its height fits. -/
theorem mem_walk_of_denotes {height : Nat}
    (denotes : DenotesInteger lookup (fun site value => value ∈ known site) id n height)
    (below : height < budget) : n ∈ walk lookup (arithmeticRules known) bound budget id := by
  induction denotes generalizing budget with
  | literal kind parsed =>
      cases budget with
      | zero => omega
      | succ budget =>
          rw [walk_const kind]
          simpa [arithmeticRules, Literal.integer?] using parsed
  | phi kind member _ induction =>
      cases budget with
      | zero => omega
      | succ budget =>
          rw [walk_phi kind]
          exact List.mem_flatMap.mpr ⟨_, member, induction (by omega)⟩
  | binary kind _ _ computes fits leftInduction rightInduction =>
      cases budget with
      | zero => omega
      | succ budget =>
          rw [walk_arithmetic_binary kind]
          exact mem_combine_iff.mpr
            ⟨_, leftInduction (by omega), _, rightInduction (by omega), computes, fits⟩
  | measured kind value =>
      cases budget with
      | zero => omega
      | succ budget =>
          rw [walk_arithmetic_call kind]
          exact value

theorem mem_walk_arithmetic_iff :
    n ∈ walk lookup (arithmeticRules known) bound budget id ↔
      ∃ height, height < budget ∧
        DenotesInteger lookup (fun site value => value ∈ known site) id n height := by
  constructor
  · exact denotes_of_mem_walk
  · intro denoted
    rcases denoted with ⟨height, below, denotes⟩
    exact mem_walk_of_denotes denotes below

end Walk

end Resolve

end LiteralFlow
