import LiteralFlow.Call.Classify

/-!
When a call has one of the two targets that resolution looks for. Both depend on
nothing but the kind of the value that is called.
-/

namespace LiteralFlow.CallSite

variable {lookup : Lookup} {site : CallSite}

/-- The target of a call is a builtin only when the call is direct. -/
theorem builtin_target_iff {name : String} :
    (site.classify lookup).target = .builtinFunction name ↔
      ∃ callee, site.mode = .direct callee ∧ lookup.kind? callee = some (.builtin name) := by
  simp only [classify]
  cases mode : site.mode with
  | direct callee =>
      simp only [CallTarget.ofMode, CallTarget.ofCallee, CallMode.direct.injEq, exists_eq_left']
      split
      · rename_i other isBuiltin
        simp [isBuiltin]
      · rename_i func bindings isClosure
        simp [isClosure]
      · rename_i func isFunction
        split <;> simp [isFunction]
      · rename_i notBuiltin _ _
        constructor
        · intro impossible
          cases impossible
        · intro isBuiltin
          exact absurd isBuiltin (notBuiltin name)
  | invoke receiver method =>
      simp only [CallTarget.ofMode]
      constructor
      · intro impossible
        split at impossible <;> cases impossible
      · intro impossible
        rcases impossible with ⟨callee, isDirect, -⟩
        cases isDirect

/-- The target of a call is a package function only when the call is direct and
the function has no receiver. -/
theorem static_target_iff {func : FunctionRef} :
    (site.classify lookup).target = .staticFunction func ↔
      ∃ callee reference, site.mode = .direct callee ∧
        lookup.kind? callee = some (.function reference) ∧
        reference.isMethod = false ∧ reference.declaration = func := by
  simp only [classify]
  cases mode : site.mode with
  | direct callee =>
      simp only [CallTarget.ofMode, CallTarget.ofCallee, CallMode.direct.injEq]
      split
      · rename_i name isBuiltin
        simp [isBuiltin]
      · rename_i closed bindings isClosure
        simp [isClosure]
      · rename_i reference isFunction
        split
        · rename_i isMethod
          simp [isFunction, isMethod]
        · rename_i notMethod
          simp [isFunction, notMethod]
      · rename_i notFunction
        constructor
        · intro impossible
          cases impossible
        · intro found
          rcases found with ⟨_, reference, rfl, isFunction, -⟩
          exact absurd isFunction (notFunction reference)
  | invoke receiver method =>
      simp only [CallTarget.ofMode]
      constructor
      · intro impossible
        split at impossible <;> cases impossible
      · intro impossible
        rcases impossible with ⟨callee, reference, isDirect, -⟩
        cases isDirect

theorem static_kind_iff :
    (site.classify lookup).kind = .staticFunction ↔
      ∃ func, (site.classify lookup).target = .staticFunction func := by
  simp only [ClassifiedCall.kind]
  cases (site.classify lookup).target <;> simp [CallTarget.kind]

/-- Package functions have no receiver among their arguments. -/
theorem static_function_args (function : (site.classify lookup).kind = .staticFunction) :
    (site.classify lookup).args = site.args := by
  obtain ⟨func, target⟩ := static_kind_iff.mp function
  simp only [ClassifiedCall.args, target]
  rfl

end LiteralFlow.CallSite
