import LiteralFlow.Proofs.Call.PatternGrammar

/-!
Patterns without wildcards. Such a pattern accepts a call only for its name: the
parts into which a pattern is divided and the parts that a name is made of are
the same, although packages and types have dots of their own.
-/

namespace LiteralFlow

def IsPlainName (name : String) : Prop :=
  name ≠ "" ∧ '.' ∉ name.toList ∧ '(' ∉ name.toList ∧ ')' ∉ name.toList

def IsPlainPath (path : String) : Prop :=
  path ≠ "" ∧ '(' ∉ path.toList ∧ ')' ∉ path.toList

/-- A receiver's type is `pointee`, behind at most one pointer mark. -/
def PointsTo (type pointee : String) : Prop :=
  (type = pointee ∨ type = "*" ++ pointee) ∧ IsPlainPath pointee ∧
    pointee.toList.head? ≠ some '*'

def NameShape.IsPlain : NameShape → Prop
  | method type name _ => (∃ pointee, PointsTo type pointee) ∧ IsPlainName name
  | function package name => IsPlainPath package ∧ IsPlainName name
  | builtin name => IsPlainName name

theorem IsPlainName.is_name {name : String} (plain : IsPlainName name) :
    PatternParts.isName name.toList = true := by
  obtain ⟨nonempty, dot, parentheses⟩ := plain
  exact PatternParts.is_name_iff.mpr ⟨by simpa using nonempty, dot,
    PatternParts.has_parenthesis_eq_false_iff.mpr parentheses⟩

theorem IsPlainPath.no_parenthesis {path : String} (plain : IsPlainPath path) :
    PatternParts.hasParenthesis path.toList = false :=
  PatternParts.has_parenthesis_eq_false_iff.mpr plain.2

namespace PatternParts

theorem drop_pointer_unmarked {type : List Char} (unmarked : type.head? ≠ some '*') :
    dropPointer type = type := by
  unfold dropPointer
  split
  · exact absurd rfl unmarked
  · rfl

theorem drop_pointer_of_exact {pattern : List Char} (exact : '*' ∉ pattern) :
    dropPointer pattern = pattern :=
  drop_pointer_unmarked fun marked => exact (List.mem_of_head? marked)

theorem drop_pointer_of_points_to {type pointee : String} (points : PointsTo type pointee) :
    dropPointer type.toList = pointee.toList := by
  obtain ⟨rfl | rfl, -, unmarked⟩ := points
  · exact drop_pointer_unmarked unmarked
  · rw [String.toList_append]
    rfl

theorem matches_part_iff {pattern actual : List Char} (exact : '*' ∉ pattern) :
    matchesPart pattern actual = true ↔ pattern = actual := by
  have notWildcard : pattern ≠ wildcard := fun same => exact (by simp [same, wildcard])
  simp [matchesPart, notWildcard]

theorem matches_package_of_exact {pattern : List Char} (exact : '*' ∉ pattern)
    (actual : List Char) : matchesPackage pattern actual = false := by
  unfold matchesPackage
  split
  · rename_i package last _ _ cut _
    have notWildcard : last ≠ wildcard := by
      intro same
      rw [Text.eq_of_cut_last cut, same] at exact
      exact exact (by simp [wildcard])
    simp [notWildcard]
  · rfl

theorem matches_receiver_iff {pattern : List Char} {type pointee : String}
    (exact : '*' ∉ pattern) (points : PointsTo type pointee) :
    matchesReceiver pattern type.toList = true ↔ pattern = pointee.toList := by
  have notWildcard : pattern ≠ wildcard := fun same => exact (by simp [same, wildcard])
  have notAny : pattern ≠ anyReceiver := fun same => exact (by simp [same, anyReceiver])
  simp [matchesReceiver, notWildcard, notAny, drop_pointer_of_exact exact,
    drop_pointer_of_points_to points, matches_package_of_exact exact]

/-- A type without any `*` is a receiver in a pattern. -/
theorem is_receiver_of_exact {type : List Char} (exact : '*' ∉ type) (nonempty : type ≠ []) :
    isReceiver type = true := by
  apply is_receiver_iff_form.mpr
  exact receiver_form_of_unmarked nonempty fun marked => exact (List.mem_of_head? marked)

end PatternParts

namespace CallPattern

variable {source : String} {call : ClassifiedCall}

theorem accepts_iff {shape : NameShape} (shaped : call.target.shape? = some shape) :
    (parse source).accepts call = true ↔
      ∃ parts : PatternParts, parts.text = source.toList ∧ parts.Fits ∧
        parts.matchesShape shape = true := by
  simp only [accepts, parse, shaped]
  constructor
  · intro accepted
    split at accepted
    · rename_i parts other read same
      cases same
      obtain ⟨printed, fits⟩ := PatternParts.fits_of_read read
      exact ⟨parts, printed, fits, accepted⟩
    · cases accepted
  · intro matched
    rcases matched with ⟨parts, printed, fits, accepted⟩
    rw [PatternParts.read_eq_some_iff.mpr ⟨printed, fits⟩]
    exact accepted

theorem accepts_function_iff {package name : String} (exact : '*' ∉ source.toList)
    (shaped : call.target.shape? = some (.function package name))
    (path : IsPlainPath package) (plain : IsPlainName name) :
    (parse source).accepts call = true ↔ source = package ++ "." ++ name := by
  rw [accepts_iff shaped]
  constructor
  · intro matched
    rcases matched with ⟨parts, printed, -, accepted⟩
    rw [← printed] at exact
    cases parts with
    | receiver type method => cases accepted
    | single name => cases accepted
    | pair left right =>
        simp only [PatternParts.text, List.mem_append, not_or] at exact
        simp only [PatternParts.matchesShape, Bool.and_eq_true,
          PatternParts.matches_part_iff exact.1.1, PatternParts.matches_part_iff exact.2]
          at accepted
        obtain ⟨rfl, rfl⟩ := accepted
        apply String.toList_injective
        rw [← printed, String.toList_append, String.toList_append]
        rfl
  · intro same
    refine ⟨.pair package.toList name.toList, ?_, ?_, ?_⟩
    · rw [same, String.toList_append, String.toList_append]
      rfl
    · exact ⟨by simpa using path.1, path.no_parenthesis, plain.is_name⟩
    · simp [PatternParts.matchesShape, PatternParts.matchesPart]

theorem accepts_builtin_iff {name : String} (exact : '*' ∉ source.toList)
    (shaped : call.target.shape? = some (.builtin name)) (plain : IsPlainName name) :
    (parse source).accepts call = true ↔ source = name := by
  rw [accepts_iff shaped]
  constructor
  · intro matched
    rcases matched with ⟨parts, printed, -, accepted⟩
    rw [← printed] at exact
    cases parts with
    | receiver type method => cases accepted
    | pair left right => cases accepted
    | single pattern =>
        simp only [PatternParts.text] at exact
        simp only [PatternParts.matchesShape, PatternParts.matches_part_iff exact] at accepted
        apply String.toList_injective
        rw [← printed, ← accepted]
        rfl
  · intro same
    refine ⟨.single name.toList, ?_, plain.is_name, ?_⟩
    · rw [same]
      rfl
    · simp [PatternParts.matchesShape, PatternParts.matchesPart]

theorem accepts_method_iff {type pointee name : String} {parenthesized : Bool}
    (exact : '*' ∉ source.toList)
    (shaped : call.target.shape? = some (.method type name parenthesized))
    (points : PointsTo type pointee) (plain : IsPlainName name) :
    (parse source).accepts call = true ↔
      source = "(" ++ pointee ++ ")." ++ name ∨ source = pointee ++ "." ++ name := by
  have receiverText : (PatternParts.receiver pointee.toList name.toList).text =
      ("(" ++ pointee ++ ")." ++ name).toList := by
    simp only [String.toList_append]
    rfl
  have pairText : (PatternParts.pair pointee.toList name.toList).text =
      (pointee ++ "." ++ name).toList := by
    simp only [String.toList_append]
    rfl
  rw [accepts_iff shaped]
  constructor
  · intro matched
    rcases matched with ⟨parts, printed, -, accepted⟩
    rw [← printed] at exact
    cases parts with
    | receiver type method =>
        simp only [PatternParts.text, List.mem_append, List.mem_cons, not_or] at exact
        simp only [PatternParts.matchesShape, Bool.and_eq_true,
          PatternParts.matches_receiver_iff exact.1.1.2 points,
          PatternParts.matches_part_iff exact.2] at accepted
        obtain ⟨rfl, rfl⟩ := accepted
        exact .inl (String.toList_injective (printed.symm.trans receiverText))
    | pair left right =>
        simp only [PatternParts.text, List.mem_append, not_or] at exact
        simp only [PatternParts.matchesShape, Bool.and_eq_true,
          PatternParts.matches_receiver_iff exact.1.1 points,
          PatternParts.matches_part_iff exact.2] at accepted
        obtain ⟨rfl, rfl⟩ := accepted
        exact .inr (String.toList_injective (printed.symm.trans pairText))
    | single name => cases accepted
  · intro named
    have nonempty : pointee.toList ≠ [] := by simpa using points.2.1.1
    -- A `*` inside the type would be in the pattern as well.
    have unmarked : '*' ∉ pointee.toList := by
      intro marked
      rcases named with same | same
      all_goals
        rw [same] at exact
        simp [marked] at exact
    have receiverMatches :=
      (PatternParts.matches_receiver_iff unmarked points).mpr rfl
    rcases named with same | same
    · refine ⟨.receiver pointee.toList name.toList, receiverText.trans (by rw [same]), ?_, ?_⟩
      · exact ⟨PatternParts.is_receiver_of_exact unmarked nonempty, plain.is_name⟩
      · simp [PatternParts.matchesShape, PatternParts.matchesPart, receiverMatches]
    · refine ⟨.pair pointee.toList name.toList, pairText.trans (by rw [same]), ?_, ?_⟩
      · exact ⟨nonempty, points.2.1.no_parenthesis, plain.is_name⟩
      · simp [PatternParts.matchesShape, PatternParts.matchesPart, receiverMatches]

theorem not_accepts_of_no_shape (unshaped : call.target.shape? = none) :
    (parse source).accepts call = false := by
  simp only [accepts, unshaped]
  cases (parse source).parts? <;> rfl

end CallPattern

namespace CallTarget

variable {target : CallTarget}

theorem shape_of_function (function : target.kind = .staticFunction ∨ target.kind = .closure) :
    ∃ package name, target.shape? = some (.function package name) ∧
      target.name = package ++ "." ++ name := by
  cases target with
  | staticFunction func => exact ⟨_, _, rfl, rfl⟩
  | closure func => exact ⟨_, _, rfl, rfl⟩
  | _ => rcases function with impossible | impossible <;> cases impossible

theorem shape_of_builtin (builtin : target.kind = .builtinFunction) :
    target.shape? = some (.builtin target.name) := by
  cases target with
  | builtinFunction name => rfl
  | _ => cases builtin

theorem shape_of_method (method : target.kind.isMethod = true) :
    ∃ type name parenthesized, target.shape? = some (.method type name parenthesized) := by
  cases target with
  | staticMethod func => exact ⟨_, _, _, rfl⟩
  | dynamicMethod receiver receiverType name => exact ⟨_, _, _, rfl⟩
  | builtinDynamicMethod receiver receiverType name => exact ⟨_, _, _, rfl⟩
  | _ => cases method

theorem shape_of_dynamic (dynamic : target.kind = .dynamicFunction) : target.shape? = none := by
  cases target with
  | dynamicFunction label => rfl
  | _ => cases dynamic

end CallTarget

namespace CallPattern

/-- A pattern without wildcards accepts a call of a function, closure or builtin
exactly when it is the name of the call, a call of a method exactly when it is the
method's name behind the receiver's type without pointer mark, in parentheses or not,
and a call of a function computed at run time never. -/
theorem exact_pattern_accepts_iff (source : String) (exact : '*' ∉ source.toList)
    (call : ClassifiedCall) (plain : ∀ shape, call.target.shape? = some shape → shape.IsPlain) :
    (call.kind = .staticFunction ∨ call.kind = .closure →
      ((parse source).accepts call = true ↔ source = call.name)) ∧
    (call.kind = .builtinFunction →
      ((parse source).accepts call = true ↔ source = call.name)) ∧
    (call.kind.isMethod = true → ∃ type name parenthesized,
      call.target.shape? = some (.method type name parenthesized) ∧
      ∀ pointee, PointsTo type pointee →
        ((parse source).accepts call = true ↔
          source = "(" ++ pointee ++ ")." ++ name ∨ source = pointee ++ "." ++ name)) ∧
    (call.kind = .dynamicFunction → (parse source).accepts call = false) := by
  refine ⟨?_, ?_, ?_, ?_⟩
  · intro function
    obtain ⟨package, name, shaped, named⟩ := CallTarget.shape_of_function function
    obtain ⟨path, plainName⟩ := plain _ shaped
    rw [accepts_function_iff exact shaped path plainName, ClassifiedCall.name, named]
  · intro builtin
    have shaped := CallTarget.shape_of_builtin builtin
    exact accepts_builtin_iff exact shaped (plain _ shaped)
  · intro method
    obtain ⟨type, name, parenthesized, shaped⟩ := CallTarget.shape_of_method method
    refine ⟨type, name, parenthesized, shaped, ?_⟩
    intro pointee points
    exact accepts_method_iff exact shaped points (plain _ shaped).2
  · intro dynamic
    exact not_accepts_of_no_shape (CallTarget.shape_of_dynamic dynamic)

def pointerCall : ClassifiedCall where
  target := .staticMethod (.method "example.com/call" "*example.com/call.Foo" "Write")
  site := ⟨.direct ⟨0⟩, [⟨1⟩, ⟨2⟩]⟩

theorem pointer_call_exact :
    (∀ shape, pointerCall.target.shape? = some shape → shape.IsPlain) ∧
      (parse "(example.com/call.Foo).Write").accepts pointerCall = true ∧
      ¬ (parse "(example.com/call).Write").accepts pointerCall = true := by
  have points : PointsTo "*example.com/call.Foo" "example.com/call.Foo" :=
    ⟨.inr (by decide), by unfold IsPlainPath; decide, by decide⟩
  have plain : ∀ shape, pointerCall.target.shape? = some shape → shape.IsPlain := by
    intro shape shaped
    cases shaped
    exact ⟨⟨_, points⟩, by unfold IsPlainName; decide⟩
  refine ⟨plain, ?_, ?_⟩
  · obtain ⟨-, -, method, -⟩ :=
      exact_pattern_accepts_iff "(example.com/call.Foo).Write" (by decide) pointerCall plain
    obtain ⟨type, name, parenthesized, shaped, accepted⟩ := method rfl
    cases shaped
    exact (accepted _ points).mpr (.inl (by decide))
  · obtain ⟨-, -, method, -⟩ :=
      exact_pattern_accepts_iff "(example.com/call).Write" (by decide) pointerCall plain
    obtain ⟨type, name, parenthesized, shaped, accepted⟩ := method rfl
    cases shaped
    rw [accepted _ points]
    decide

end CallPattern

end LiteralFlow
