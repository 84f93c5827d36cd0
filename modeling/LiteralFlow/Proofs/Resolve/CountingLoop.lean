import LiteralFlow.Proofs.Resolve.IntegerDenotation
import Mathlib.Algebra.Order.Floor.Div
import Mathlib.Data.Nat.Init

/-!
A loop that counts: its header is a literal on the way in, and the header plus a
second literal on the way back. The bound on depths unrolls it. A round takes two
depths, one for the phi and one for the sum, and the candidates are the terms of an
arithmetic progression up to the first one that no word holds.
-/

namespace LiteralFlow

namespace Integer

instance (n : Int) : Decidable (InWord n) := inferInstanceAs (Decidable (_ ∧ _))

def progression (start step : Int) (count : Nat) : List Int :=
  (List.range count).map fun round : Nat => start + round * step

/-- The terms of a progression before the first one that leaves the word. -/
def countUp (start step : Int) (count : Nat) : List Int :=
  (progression start step count).takeWhile fun n => InWord n

variable {start step : Int}

theorem progression_succ (start step : Int) (count : Nat) :
    progression start step (count + 1) = start :: progression (start + step) step count := by
  rw [progression, progression, List.range_succ_eq_map, List.map_cons, List.map_map]
  congr 1
  · simp
  · apply List.map_congr_left
    intro round _
    simp only [Function.comp_apply, Nat.cast_succ, Int.add_mul, Int.one_mul]
    omega

theorem count_up_succ (fits : InWord start) (count : Nat) :
    countUp start step (count + 1) = start :: countUp (start + step) step count := by
  rw [countUp, progression_succ, List.takeWhile_cons_of_pos (by simpa using fits), countUp]

/-- Outside the word there is nothing to count. -/
theorem count_up_outside (outside : ¬ InWord start) (count : Nat) :
    countUp start step count = [] := by
  cases count with
  | zero => rfl
  | succ count =>
      rw [countUp, progression_succ, List.takeWhile_cons_of_neg (by simpa using outside)]

/-- One step added to every term gives the progression from the second term on. A term
whose sum leaves the word is the last one. -/
theorem count_up_shift (fits : InWord start) (count : Nat) :
    (countUp start step count).filterMap (fun n => fit? (n + step)) =
      countUp (start + step) step count := by
  induction count generalizing start with
  | zero => rfl
  | succ count induction =>
      rw [count_up_succ fits]
      by_cases next : InWord (start + step)
      · have sum : fit? (start + step) = some (start + step) := fit_eq_some_iff.mpr ⟨rfl, next⟩
        simp only [List.filterMap_cons, sum, induction next, count_up_succ next]
      · have sum : fit? (start + step) = none := if_neg next
        simp only [List.filterMap_cons, sum, count_up_outside next, List.filterMap_nil]

end Integer

namespace Resolve

/-- A loop whose header starts at `start` and grows by `increment` in each round. -/
structure CountingLoop (lookup : Lookup) (header init next step : ValueId)
    (start increment : Int) : Prop where
  isHeader : lookup.kind? header = some (.phi [init, next])
  isNext : lookup.kind? next = some (.binary .add header step)
  isInit : ∃ source, lookup.kind? init = some (.const (.int source)) ∧
    Literal.parseInteger? source = some start
  isStep : ∃ source, lookup.kind? step = some (.const (.int source)) ∧
    Literal.parseInteger? source = some increment

theorem in_word_of_parse {source : String} {n : Int}
    (parsed : Literal.parseInteger? source = some n) : Integer.InWord n := by
  simp only [Literal.parseInteger?, Option.bind_eq_bind, Option.bind_eq_some_iff,
    Integer.fit_eq_some_iff] at parsed
  obtain ⟨_, -, -, fits⟩ := parsed
  exact fits

theorem combine_add_single (xs : Candidates Int) (y : Int) :
    combine .add xs [y] = xs.filterMap fun x => Integer.fit? (x + y) := by
  rw [combine, List.filterMap_eq_flatMap_toList]
  apply List.flatMap_congr
  intro x _
  rw [List.filterMap_eq_flatMap_toList, List.flatMap_singleton]
  rfl

namespace CountingLoop

variable {lookup : Lookup} {header init next step : ValueId} {start increment : Int}
  {known : CallSite → Candidates Int} {bound : Nat}

theorem walk_literal {id : ValueId} {n : Int}
    (literal : ∃ source, lookup.kind? id = some (.const (.int source)) ∧
      Literal.parseInteger? source = some n) (budget : Nat) :
    walk lookup (arithmeticRules known) bound (budget + 1) id = [n] := by
  obtain ⟨source, kind, parsed⟩ := literal
  rw [walk_const kind]
  simp only [arithmeticRules, Literal.integer?, parsed, Option.toList_some]

/-- A round of the loop takes two from the budget. -/
theorem walk_round (loop : CountingLoop lookup header init next step start increment)
    (budget : Nat) :
    walk lookup (arithmeticRules known) bound (budget + 2) header =
      start :: (walk lookup (arithmeticRules known) bound budget header).filterMap
        (fun n => Integer.fit? (n + increment)) := by
  rw [walk_phi loop.isHeader]
  simp only [List.flatMap_cons, List.flatMap_nil, List.append_nil, walk_literal loop.isInit,
    walk_arithmetic_binary loop.isNext, List.singleton_append, List.cons.injEq, true_and]
  cases budget with
  | zero => simp only [walk, combine, List.flatMap_nil, List.filterMap_nil]
  | succ budget => rw [walk_literal loop.isStep, combine_add_single]

theorem walk_eq_count_up (loop : CountingLoop lookup header init next step start increment)
    (budget : Nat) :
    walk lookup (arithmeticRules known) bound budget header =
      Integer.countUp start increment (budget / 2) := by
  have fits : Integer.InWord start := by
    obtain ⟨source, -, parsed⟩ := loop.isInit
    exact in_word_of_parse parsed
  induction budget using Nat.twoStepInduction with
  | zero => rfl
  | one => rw [walk_phi loop.isHeader]; rfl
  | more budget induction _ =>
      have rounds : (budget + 2) / 2 = budget / 2 + 1 := by omega
      rw [loop.walk_round, induction, Integer.count_up_shift fits, rounds,
        Integer.count_up_succ fits]

end CountingLoop

/-- The header of a counting loop has the terms `start + k * increment` as its candidates,
in this order and for each `k` below half of the bound, rounded up; the first term that
leaves the word ends them. -/
theorem counting_loop_unrolls (graph : ValueGraph) (header init next step : ValueId)
    (start increment : Int)
    (loop : CountingLoop graph.node? header init next step start increment) (maxDepth : Nat) :
    graph.integers header maxDepth =
      ((List.range (maxDepth ⌈/⌉ 2)).map fun k : Nat => start + k * increment).takeWhile
        fun n => Integer.InWord n := by
  have rounds : maxDepth ⌈/⌉ 2 = (maxDepth + 1) / 2 := Nat.ceilDiv_eq_add_pred_div ..
  rw [rounds]
  have unrolled : walk graph.node? (arithmeticRules fun _ => []) maxDepth (maxDepth + 1) header =
      Integer.countUp start increment ((maxDepth + 1) / 2) := loop.walk_eq_count_up _
  rw [← integer_rules_eq_arithmetic] at unrolled
  exact unrolled

def countdown : ValueGraph where
  function := "main.countdown"
  nodes := #[
    .ofKind "header" (.phi [⟨1⟩, ⟨3⟩]),
    .ofKind "init" (.const (.int "-9_223_372_036_854_775_800")),
    .ofKind "step" (.const (.int "-0b11")),
    .ofKind "next" (.binary .add ⟨0⟩ ⟨2⟩)]

/-- Within nine depths there is room for five rounds, and the fourth leaves the word. -/
theorem countdown_unrolls :
    CountingLoop countdown.node? ⟨0⟩ ⟨1⟩ ⟨3⟩ ⟨2⟩ (-9223372036854775800) (-3) ∧
      countdown.integers ⟨0⟩ 9 =
        [-9223372036854775800, -9223372036854775803, -9223372036854775806] ∧
      countdown.integers ⟨0⟩ 4 = [-9223372036854775800, -9223372036854775803] := by
  have loop : CountingLoop countdown.node? ⟨0⟩ ⟨1⟩ ⟨3⟩ ⟨2⟩ (-9223372036854775800) (-3) :=
    ⟨rfl, rfl, ⟨_, rfl, by decide +kernel⟩, ⟨_, rfl, by decide +kernel⟩⟩
  refine ⟨loop, ?_, ?_⟩
  · rw [counting_loop_unrolls countdown _ _ _ _ _ _ loop]
    decide +kernel
  · rw [counting_loop_unrolls countdown _ _ _ _ _ _ loop]
    decide +kernel

end Resolve

end LiteralFlow
