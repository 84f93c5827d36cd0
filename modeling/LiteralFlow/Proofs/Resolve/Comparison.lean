import LiteralFlow.Proofs.Resolve.TextDenotation
import Mathlib.Data.List.Basic
import Mathlib.Data.List.Flatten

/-!
Two walks over one graph with different budgets, compared.

Resolution builds candidates with `flatMap` alone, if the two calls that a
configuration names are left aside. A comparison of candidates that `flatMap`
respects therefore passes from what a value reads to the value itself, and it
remains to say which budgets are compared at which values.
-/

namespace LiteralFlow

def Lookup.Reads (lookup : Lookup) (id operand : ValueId) : Prop :=
  ∃ kind, lookup.kind? id = some kind ∧ operand ∈ kind.operands

namespace Resolve

/-- A comparison of candidates that holds of the same ones, and is kept when each
candidate gives way to those that follow from it. -/
structure Comparison where
  Related : ∀ {α : Type}, Candidates α → Candidates α → Prop
  refl : ∀ {α : Type} (xs : Candidates α), Related xs xs
  flatMap : ∀ {α β : Type} {xs ys : Candidates α} {f g : α → Candidates β}, Related xs ys →
    (∀ x ∈ xs, Related (f x) (g x)) → Related (xs.flatMap f) (ys.flatMap g)

namespace Comparison

variable (comparison : Comparison) {α β : Type}

end Comparison

/-- Two plans that ask for the same values, all among `operands`, and find related
candidates whenever they are given related ones. -/
inductive Plan.Compared {α : Type} (comparison : Comparison) (operands : List ValueId) :
    Plan α → Plan α → Prop where
  | found {xs ys : Candidates α} (related : comparison.Related xs ys) :
      Compared comparison operands (.found xs) (.found ys)
  | ask {operand : ValueId} {next next' : Candidates α → Plan α}
      (member : operand ∈ operands)
      (continues : ∀ xs ys, comparison.Related xs ys →
        Compared comparison operands (next xs) (next' ys)) :
      Compared comparison operands (.ask operand next) (.ask operand next')

theorem Plan.Compared.run {α : Type} {comparison : Comparison} {operands : List ValueId}
    {plan plan' : Plan α} (compared : Plan.Compared comparison operands plan plan')
    {answer answer' : ValueId → Candidates α}
    (answers : ∀ operand ∈ operands, comparison.Related (answer operand) (answer' operand)) :
    comparison.Related (plan.run answer) (plan'.run answer') := by
  induction compared with
  | found related => exact related
  | ask member _ induction => exact induction _ _ (answers _ member)

section Walk

variable {α : Type} {lookup : Lookup} {comparison : Comparison} {rules : Rules α}
  {bound bound' budget budget' : Nat} {id : ValueId}

end Walk

section Text

variable {context : TextContext} {comparison : Comparison}
  {bound bound' budget budget' : Nat} {id : ValueId}

end Text

end Resolve

end LiteralFlow
