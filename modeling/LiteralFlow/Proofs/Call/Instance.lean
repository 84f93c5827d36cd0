import LiteralFlow.Call.Classify
import LiteralFlow.Call.Pattern

/-!
Calls of instances of generic functions. The declaration behind a chain of
instances is the one that the chain starts from, so a call of an instance of a
package function looks like a call of the function itself. A method is named by
the reference that is called, so a call of an instance of a method keeps its kind
and its arguments, but not its name and package.
-/

namespace LiteralFlow

namespace FunctionRef

variable {origin : FunctionRef} {names : List String}

/-- The end of a chain of instances: the first is made from `origin`, and each of
the others from the one before it. -/
def instantiateAll (origin : FunctionRef) : List String → FunctionRef
  | [] => origin
  | name :: names => (instantiate name origin).instantiateAll names

theorem receiver_instantiate_all : (origin.instantiateAll names).receiver = origin.receiver := by
  induction names generalizing origin with
  | nil => rfl
  | cons name names induction => exact induction

theorem declaration_instantiate_all :
    (origin.instantiateAll names).declaration = origin.declaration := by
  induction names generalizing origin with
  | nil => rfl
  | cons name names induction => exact induction

theorem package_instantiate_all (made : names ≠ []) :
    (origin.instantiateAll names).package = none := by
  induction names generalizing origin with
  | nil => exact absurd rfl made
  | cons name names induction =>
      cases names with
      | nil => rfl
      | cons next names => exact induction (List.cons_ne_nil next names)

end FunctionRef

/-- Calls that no rule about calls tells apart. -/
structure ClassifiedCall.Alike (call call' : ClassifiedCall) : Prop where
  kind : call.kind = call'.kind
  name : call.name = call'.name
  package : call.package? = call'.package?
  receiver : call.receiver? = call'.receiver?
  args : call.args = call'.args
  patterns : ∀ source,
    (CallPattern.parse source).accepts call = (CallPattern.parse source).accepts call'

theorem ClassifiedCall.alike_of_target {call call' : ClassifiedCall}
    (target : call.target = call'.target) (args : call.site.args = call'.site.args) :
    call.Alike call' where
  kind := by rw [kind, kind, target]
  name := by rw [name, name, target]
  package := by rw [package?, package?, target]
  receiver := by simp only [receiver?, target, args]
  args := by simp only [ClassifiedCall.args, target, args]
  patterns source := by simp only [CallPattern.accepts, target]

namespace CallSite

variable {lookup lookup' : Lookup} {callee callee' : ValueId} {func : FunctionRef}

theorem target_of_method (args : List ValueId)
    (called : lookup.kind? callee = some (.function func)) (method : func.isMethod = true) :
    (classify lookup ⟨.direct callee, args⟩).target = .staticMethod func := by
  simp only [classify, CallTarget.ofMode, CallTarget.ofCallee, called, method, if_true]

theorem target_of_function (args : List ValueId)
    (called : lookup.kind? callee = some (.function func)) (function : func.isMethod = false) :
    (classify lookup ⟨.direct callee, args⟩).target = .staticFunction func.declaration := by
  simp only [classify, CallTarget.ofMode, CallTarget.ofCallee, called, function,
    Bool.false_eq_true, if_false]

/-- A call of the last of a chain of instances has the kind, receiver and arguments
of a call of the declaration that the chain starts from. All else is the same, so
that no pattern tells the calls apart, exactly when the declaration is no method or
the chain is empty. -/
theorem instance_call_alike_iff (origin : FunctionRef) (packaged : origin.package.isSome)
    (names : List String) (args : List ValueId)
    (called : lookup.kind? callee = some (.function (origin.instantiateAll names)))
    (called' : lookup'.kind? callee' = some (.function origin)) :
    let call := classify lookup ⟨.direct callee, args⟩
    let call' := classify lookup' ⟨.direct callee', args⟩
    (call.kind = call'.kind ∧ call.receiver? = call'.receiver? ∧ call.args = call'.args) ∧
      (call.Alike call' ↔ origin.isMethod = false ∨ names = []) := by
  intro call call'
  have sameMethod : (origin.instantiateAll names).isMethod = origin.isMethod := by
    rw [FunctionRef.isMethod, FunctionRef.receiver_instantiate_all, FunctionRef.isMethod]
  cases method : origin.isMethod with
  | false =>
      have target : call.target = call'.target := by
        rw [target_of_function args called (sameMethod.trans method),
          target_of_function args called' method, FunctionRef.declaration_instantiate_all]
      have alike := ClassifiedCall.alike_of_target target rfl
      exact ⟨⟨alike.kind, alike.receiver, alike.args⟩, fun _ => .inl rfl, fun _ => alike⟩
  | true =>
      have target : call.target = .staticMethod (origin.instantiateAll names) :=
        target_of_method args called (sameMethod.trans method)
      have target' : call'.target = .staticMethod origin := target_of_method args called' method
      refine ⟨⟨?_, ?_, ?_⟩, ?_, ?_⟩
      · rw [ClassifiedCall.kind, ClassifiedCall.kind, target, target']
        rfl
      · simp only [ClassifiedCall.receiver?, target, target']
        rfl
      · simp only [ClassifiedCall.args, target, target']
        rfl
      · intro alike
        -- An instance has no package, and the declaration has one.
        refine .inr (Decidable.byContradiction fun made => ?_)
        have package := alike.package
        simp only [ClassifiedCall.package?, target, target', CallTarget.package?,
          FunctionRef.package_instantiate_all made] at package
        rw [← package] at packaged
        cases packaged
      · intro excluded
        rcases excluded with function | rfl
        · cases function
        · exact ClassifiedCall.alike_of_target (target.trans target'.symm) rfl

/-- A generic method and a generic function, each before an instance of an instance
of it. -/
def genericBox : ValueGraph where
  function := "example.com/call.main"
  nodes := #[
    .ofKind "Get" (.function (.method "example.com/call" "*example.com/call.Box" "Get")),
    .ofKind "Get[int]" (.function
      ((FunctionRef.method "example.com/call" "*example.com/call.Box" "Get").instantiateAll
        ["Get[T]", "Get[int]"])),
    .ofKind "Map" (.function (.function "example.com/call" "Map")),
    .ofKind "Map[int]" (.function
      ((FunctionRef.function "example.com/call" "Map").instantiateAll ["Map[T]", "Map[int]"])),
    .ofKind "box" .unmodelled]

theorem generic_box_calls :
    (genericBox.classify ⟨.direct ⟨3⟩, [⟨4⟩]⟩).Alike (genericBox.classify ⟨.direct ⟨2⟩, [⟨4⟩]⟩) ∧
      (genericBox.classify ⟨.direct ⟨1⟩, [⟨4⟩]⟩).receiver? = some ⟨4⟩ ∧
      ¬ (genericBox.classify ⟨.direct ⟨1⟩, [⟨4⟩]⟩).Alike
        (genericBox.classify ⟨.direct ⟨0⟩, [⟨4⟩]⟩) := by
  have function := instance_call_alike_iff (.function "example.com/call" "Map") rfl
    ["Map[T]", "Map[int]"] [⟨4⟩] (rfl : genericBox.node?.kind? ⟨3⟩ = _)
    (rfl : genericBox.node?.kind? ⟨2⟩ = _)
  have method := instance_call_alike_iff
    (.method "example.com/call" "*example.com/call.Box" "Get") rfl ["Get[T]", "Get[int]"] [⟨4⟩]
    (rfl : genericBox.node?.kind? ⟨1⟩ = _) (rfl : genericBox.node?.kind? ⟨0⟩ = _)
  exact ⟨function.2.mpr (.inl rfl), method.1.2.1,
    fun alike => absurd (method.2.mp alike) (by decide)⟩

end CallSite

end LiteralFlow
