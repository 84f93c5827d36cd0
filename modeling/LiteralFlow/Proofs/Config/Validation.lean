import LiteralFlow.Proofs.Call.PointerMark
import LiteralFlow.Resolve.Resolver

/-!
What validation promises. A pattern is valid exactly when some call is accepted by
it: the call that is named as the pattern is written. It has the form of a package
function's name exactly when such a function can be the one that is called. So a
configuration passes exactly when its depth is allowed and both of its patterns can
be of use, and the report names the first of the three that fails.
-/

namespace LiteralFlow

namespace PatternParts

variable {parts : PatternParts}

/-- A value to call that is named as the pattern is written. -/
def callee : PatternParts → ValueKind
  | receiver type method => .function (.method "main" (String.ofList type) (String.ofList method))
  | pair left right => .function (.function (String.ofList left) (String.ofList right))
  | single name => .builtin (String.ofList name)

def calleeGraph (parts : PatternParts) : ValueGraph where
  function := "main.main"
  nodes := #[.ofKind "callee" parts.callee]

def ownCall (parts : PatternParts) : ClassifiedCall :=
  parts.calleeGraph.classify ⟨.direct ⟨0⟩, []⟩

def ownShape : PatternParts → NameShape
  | receiver type method => .method (String.ofList type) (String.ofList method) true
  | pair left right => .function (String.ofList left) (String.ofList right)
  | single name => .builtin (String.ofList name)

theorem shape_of_own_call : parts.ownCall.target.shape? = some parts.ownShape := by
  cases parts <;> rfl

theorem matches_part_self (text : List Char) : matchesPart text text = true := by
  simp [matchesPart]

theorem matches_receiver_self (type : List Char) : matchesReceiver type type = true :=
  matches_receiver_eq_true_iff.mpr (.inr (.inr (.inl rfl)))

theorem matches_own_shape : parts.matchesShape parts.ownShape = true := by
  cases parts <;>
    simp only [matchesShape, ownShape, String.toList_ofList, matches_part_self,
      matches_receiver_self, Bool.and_self]

end PatternParts

namespace CallPattern

variable {source : String} {call : ClassifiedCall}

def AcceptsSomeCall (pattern : CallPattern) : Prop :=
  ∃ (graph : ValueGraph) (site : CallSite), pattern.accepts (graph.classify site) = true

def AcceptsSomeFunction (pattern : CallPattern) : Prop :=
  ∃ (graph : ValueGraph) (site : CallSite), (graph.classify site).kind = .staticFunction ∧
    pattern.accepts (graph.classify site) = true

theorem accepts_own_call {parts : PatternParts} (read : (parse source).parts? = some parts) :
    (parse source).accepts parts.ownCall = true := by
  rw [accepts_of_parts read PatternParts.shape_of_own_call]
  exact PatternParts.matches_own_shape

theorem is_valid_of_accepts (accepted : (parse source).accepts call = true) :
    (parse source).isValid = true := by
  cases read : (parse source).parts? with
  | none => simp [accepts, read] at accepted
  | some parts => exact is_valid_of_parts read

/-- Only a pattern of a package function's form accepts a package function. -/
theorem function_shaped_of_accepts (function : call.kind = .staticFunction)
    (accepted : (parse source).accepts call = true) :
    (parse source).isFunctionShaped = true := by
  obtain ⟨package, name, shaped, -⟩ := CallTarget.shape_of_function (.inl function)
  obtain ⟨parts, read⟩ := Option.isSome_iff_exists.mp (is_valid_of_accepts accepted)
  rw [accepts_of_parts read shaped] at accepted
  cases parts with
  | receiver type method => cases accepted
  | pair left right => simp [isFunctionShaped, read]
  | single name => cases accepted

theorem is_valid_iff : (parse source).isValid = true ↔ (parse source).AcceptsSomeCall := by
  constructor
  · intro valid
    obtain ⟨parts, read⟩ := Option.isSome_iff_exists.mp valid
    exact ⟨parts.calleeGraph, _, accepts_own_call read⟩
  · intro some
    rcases some with ⟨graph, site, accepted⟩
    exact is_valid_of_accepts accepted

theorem is_function_shaped_iff :
    (parse source).isFunctionShaped = true ↔ (parse source).AcceptsSomeFunction := by
  constructor
  · intro shaped
    unfold isFunctionShaped at shaped
    split at shaped
    · rename_i left right read
      exact ⟨(PatternParts.pair left right).calleeGraph, _, rfl, accepts_own_call read⟩
    · cases shaped
  · intro some
    rcases some with ⟨graph, site, function, accepted⟩
    exact function_shaped_of_accepts function accepted

end CallPattern

namespace ResolverConfig

variable {config : ResolverConfig} {cause : ConfigError}

def DepthAllowed (config : ResolverConfig) : Prop := 1 ≤ config.maxDepth ∧ config.maxDepth ≤ 1000

def FormatUsable (config : ResolverConfig) : Prop :=
  (CallPattern.parse config.formatFunction).AcceptsSomeFunction

def JoinUsable (config : ResolverConfig) : Prop :=
  (CallPattern.parse config.joinFunction).AcceptsSomeFunction

/-- A configuration that resolvers can work with. -/
structure IsUsable (config : ResolverConfig) : Prop where
  depth : config.DepthAllowed
  format : config.FormatUsable
  join : config.JoinUsable

/-- The first thing that is wrong with a configuration. -/
inductive Fault (config : ResolverConfig) : ConfigError → Prop where
  | depth (outside : ¬ config.DepthAllowed) :
      Fault config (.range "max_depth" (toString config.maxDepth) 1 1000
        "Recursion depth must be at least 1")
  | format (allowed : config.DepthAllowed) (useless : ¬ config.FormatUsable) :
      Fault config (.invalidPattern "format_function" config.formatFunction)
  | join (allowed : config.DepthAllowed) (usable : config.FormatUsable)
      (useless : ¬ config.JoinUsable) :
      Fault config (.invalidPattern "join_function" config.joinFunction)

theorem validate_pattern_usable {field pattern : String}
    (usable : (CallPattern.parse pattern).AcceptsSomeFunction) :
    validatePattern field pattern = .ok () :=
  if_pos (CallPattern.is_function_shaped_iff.mpr usable)

theorem validate_pattern_useless {field pattern : String}
    (useless : ¬ (CallPattern.parse pattern).AcceptsSomeFunction) :
    validatePattern field pattern = .error (.invalidPattern field pattern) :=
  if_neg (fun shaped => useless (CallPattern.is_function_shaped_iff.mp shaped))

theorem validate_allowed (allowed : config.DepthAllowed) :
    config.validate = (do
      validatePattern "format_function" config.formatFunction
      validatePattern "join_function" config.joinFunction) := by
  obtain ⟨positive, bounded⟩ := allowed
  exact if_neg (by omega)

theorem validate_usable (usable : config.IsUsable) : config.validate = .ok () := by
  rw [validate_allowed usable.depth, validate_pattern_usable usable.format,
    validate_pattern_usable usable.join]
  rfl

theorem validate_of_fault (fault : config.Fault cause) : config.validate = .error cause := by
  cases fault with
  | depth outside =>
      refine if_pos ?_
      unfold DepthAllowed at outside
      omega
  | format allowed useless =>
      rw [validate_allowed allowed, validate_pattern_useless useless]
      rfl
  | join allowed usable useless =>
      rw [validate_allowed allowed, validate_pattern_usable usable,
        validate_pattern_useless useless]
      rfl

theorem fault_or_usable (config : ResolverConfig) :
    (∃ cause, config.Fault cause) ∨ config.IsUsable := by
  by_cases allowed : config.DepthAllowed
  · by_cases format : config.FormatUsable
    · by_cases join : config.JoinUsable
      · exact .inr ⟨allowed, format, join⟩
      · exact .inl ⟨_, .join allowed format join⟩
    · exact .inl ⟨_, .format allowed format⟩
  · exact .inl ⟨_, .depth allowed⟩

theorem validate_eq_ok_iff : config.validate = .ok () ↔ config.IsUsable := by
  constructor
  · intro passed
    rcases config.fault_or_usable with ⟨cause, fault⟩ | usable
    · rw [validate_of_fault fault] at passed
      cases passed
    · exact usable
  · exact validate_usable

theorem validate_eq_error_iff : config.validate = .error cause ↔ config.Fault cause := by
  constructor
  · intro refused
    rcases config.fault_or_usable with ⟨found, fault⟩ | usable
    · rw [validate_of_fault fault] at refused
      cases refused
      exact fault
    · rw [validate_usable usable] at refused
      cases refused
  · exact validate_of_fault

/-- Something is built exactly from a usable configuration. Any other is refused with
its fault. -/
structure Guards {α : Type} (config : ResolverConfig) (built : Except Error α) : Prop where
  succeeds : (∃ result, built = .ok result) ↔ config.IsUsable
  refused : ∀ error, built = .error error ↔ ∃ cause, error = .config cause ∧ config.Fault cause

theorem guards_of_validate {α : Type} {built : Except Error α} (result : α)
    (passed : config.validate = .ok () → built = .ok result)
    (refused : ∀ cause, config.validate = .error cause → built = .error (.config cause)) :
    config.Guards built := by
  rcases config.fault_or_usable with ⟨cause, fault⟩ | usable
  · have invalid := validate_of_fault fault
    rw [refused cause invalid]
    constructor
    · rw [← validate_eq_ok_iff, invalid]
      simp
    · intro error
      constructor
      · intro same
        cases same
        exact ⟨cause, rfl, fault⟩
      · rintro ⟨found, rfl, other⟩
        rw [← validate_eq_error_iff, invalid] at other
        cases other
        rfl
  · have valid := validate_usable usable
    rw [passed valid]
    constructor
    · exact ⟨fun _ => usable, fun _ => ⟨result, rfl⟩⟩
    · intro error
      constructor
      · intro impossible
        cases impossible
      · rintro ⟨cause, -, fault⟩
        rw [← validate_eq_error_iff, valid] at fault
        cases fault

theorem guards_text_resolver (graph : ValueGraph) :
    config.Guards (TextResolver.ofValidConfig graph config) := by
  apply guards_of_validate (TextResolver.ofConfig graph config)
  · intro passed
    simp only [TextResolver.ofValidConfig, passed]
  · intro cause refused
    simp only [TextResolver.ofValidConfig, refused]

theorem guards_integer_resolver (graph : ValueGraph) :
    config.Guards (IntegerResolver.ofValidConfig graph config) := by
  apply guards_of_validate (IntegerResolver.ofConfig graph config)
  · intro passed
    simp only [IntegerResolver.ofValidConfig, passed]
  · intro cause refused
    simp only [IntegerResolver.ofValidConfig, refused]

open CallPattern in
/-- A pattern is valid exactly when it accepts some call, and has the form of a package
function's name exactly when it accepts some call of one; others accept no call, however
it came about. A configuration passes validation, and resolvers are built from it,
exactly when its depth is allowed and both patterns accept some package function. It is
refused for its depth, or else for the format pattern, or else for the join pattern. -/
theorem validity_means_use :
    (∀ source : String,
      ((parse source).isValid = true ↔ (parse source).AcceptsSomeCall) ∧
      ((parse source).isFunctionShaped = true ↔ (parse source).AcceptsSomeFunction) ∧
      ∀ call, (parse source).accepts call = true →
        (parse source).isValid = true ∧
          (call.kind = .staticFunction → (parse source).isFunctionShaped = true)) ∧
    ∀ config : ResolverConfig,
      (config.validate = .ok () ↔ config.IsUsable) ∧
      (∀ cause, config.validate = .error cause ↔ config.Fault cause) ∧
      ∀ graph, config.Guards (TextResolver.ofValidConfig graph config) ∧
        config.Guards (IntegerResolver.ofValidConfig graph config) := by
  constructor
  · intro source
    refine ⟨is_valid_iff, is_function_shaped_iff, ?_⟩
    intro call accepted
    exact ⟨is_valid_of_accepts accepted,
      fun function => function_shaped_of_accepts function accepted⟩
  · intro config
    exact ⟨validate_eq_ok_iff, fun _ => validate_eq_error_iff,
      fun graph => ⟨guards_text_resolver graph, guards_integer_resolver graph⟩⟩

def methodJoin : ResolverConfig := { default with joinFunction := "(*strings.Builder).Join" }

theorem method_join_refused :
    default.IsUsable ∧ (CallPattern.parse "(*strings.Builder).Join").AcceptsSomeCall ∧
      ¬ (CallPattern.parse "(*strings.Builder).Join").AcceptsSomeFunction ∧
      methodJoin.Fault (.invalidPattern "join_function" "(*strings.Builder).Join") := by
  obtain ⟨patterns, configs⟩ := validity_means_use
  obtain ⟨valid, functionShaped, -⟩ := patterns "(*strings.Builder).Join"
  refine ⟨(configs default).1.mp rfl, valid.mp (by decide +kernel), ?_, ?_⟩
  · rw [← functionShaped]
    decide +kernel
  · exact ((configs methodJoin).2.1 _).mp rfl

end ResolverConfig

end LiteralFlow
