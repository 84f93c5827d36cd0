import LiteralFlow.Proofs.Call.ExactPattern

/-!
Pointer marks and parentheses around receivers. A receiver is compared behind its
pointer mark, in the pattern and in the call, and a package wildcard is compared
before the last dot of what is left. So a mark on either side changes nothing, and
neither do the parentheses where a pattern can go without them.
-/

namespace LiteralFlow

namespace PatternParts

variable {pattern actual : List Char}

theorem matches_package_iff :
    matchesPackage pattern actual = true ↔
      ∃ package type, pattern = package ++ ['.', '*'] ∧ actual = package ++ '.' :: type ∧
        '.' ∉ type := by
  constructor
  · intro matched
    unfold matchesPackage at matched
    split at matched
    · rename_i package last actualPackage type cut actualCut
      simp only [Bool.and_eq_true, decide_eq_true_eq] at matched
      obtain ⟨rfl, rfl⟩ := matched
      obtain ⟨divided, -⟩ := Text.cut_last_eq_some_iff.mp cut
      obtain ⟨actualDivided, dotless⟩ := Text.cut_last_eq_some_iff.mp actualCut
      exact ⟨package, type, divided, actualDivided, dotless⟩
    · cases matched
  · intro divided
    rcases divided with ⟨package, type, rfl, rfl, dotless⟩
    have cut : Text.cutLast? ['.'] (package ++ ['.', '*']) = some (package, wildcard) :=
      Text.cut_last_eq_some_iff.mpr ⟨rfl, by decide⟩
    have actualCut : Text.cutLast? ['.'] (package ++ '.' :: type) = some (package, type) :=
      Text.cut_last_eq_some_iff.mpr ⟨rfl, dotless⟩
    simp [matchesPackage, cut, actualCut]

/-- A receiver is matched by a wildcard, by the same type, or by the wildcard of its
package, and pointer marks do not count. -/
theorem matches_receiver_eq_true_iff :
    matchesReceiver pattern actual = true ↔
      pattern = wildcard ∨ pattern = anyReceiver ∨ dropPointer pattern = dropPointer actual ∨
        ∃ package type, dropPointer pattern = package ++ ['.', '*'] ∧
          dropPointer actual = package ++ '.' :: type ∧ '.' ∉ type := by
  simp only [matchesReceiver, Bool.or_eq_true, decide_eq_true_eq, matches_package_iff, or_assoc]

/-- The receiver of a call counts only behind its pointer mark. -/
theorem matches_receiver_of_same_pointee {actual' : List Char}
    (same : dropPointer actual = dropPointer actual') :
    matchesReceiver pattern actual = matchesReceiver pattern actual' := by
  simp only [matchesReceiver, same]

/-- A pointer mark before a type in a pattern changes nothing. -/
theorem matches_receiver_pointer {type : List Char} (named : type ≠ [])
    (unmarked : type.head? ≠ some '*') (undotted : type.head? ≠ some '.') :
    matchesReceiver ('*' :: type) actual = matchesReceiver type actual := by
  have notWildcard : type ≠ wildcard := by
    rintro rfl
    exact unmarked rfl
  have notAny : type ≠ anyReceiver := by
    rintro rfl
    exact unmarked rfl
  have markedNotWildcard : '*' :: type ≠ wildcard := by
    intro same
    exact named (List.cons.inj same).2
  have markedNotAny : '*' :: type ≠ anyReceiver := by
    intro same
    rw [(List.cons.inj same).2] at undotted
    exact undotted rfl
  have pointee : dropPointer ('*' :: type) = dropPointer type :=
    (drop_pointer_unmarked unmarked).symm
  simp only [matchesReceiver, notWildcard, notAny, markedNotWildcard, markedNotAny, pointee]

theorem receiver_form_of_pointer {type : List Char} (named : type ≠ [])
    (unmarked : type.head? ≠ some '*') (undotted : type.head? ≠ some '.') :
    IsReceiverForm ('*' :: type) := by
  obtain ⟨first, rest, rfl⟩ := List.exists_cons_of_ne_nil named
  exact .pointer (by simpa using undotted) (by simpa using unmarked)

end PatternParts

namespace CallPattern

variable {source source' : String} {parts parts' : PatternParts} {call call' : ClassifiedCall}

theorem is_valid_of_parts (read : (parse source).parts? = some parts) :
    (parse source).isValid = true := by
  rw [isValid, read]
  rfl

theorem accepts_of_parts {shape : NameShape} (read : (parse source).parts? = some parts)
    (shaped : call.target.shape? = some shape) :
    (parse source).accepts call = parts.matchesShape shape := by
  simp only [accepts, read, shaped]

/-- Patterns whose parts match the same names accept the same calls. -/
theorem accepts_eq_of_parts (read : (parse source).parts? = some parts)
    (read' : (parse source').parts? = some parts')
    (same : ∀ shape, call.target.shape? = some shape →
      parts.matchesShape shape = parts'.matchesShape shape) :
    (parse source).accepts call = (parse source').accepts call := by
  cases shaped : call.target.shape? with
  | none => rw [not_accepts_of_no_shape shaped, not_accepts_of_no_shape shaped]
  | some shape =>
      rw [accepts_of_parts read shaped, accepts_of_parts read' shaped]
      exact same shape shaped

theorem parts_of_receiver {type method : String}
    (isType : PatternParts.IsReceiverForm type.toList) (plain : IsPlainName method) :
    (parse ("(" ++ type ++ ")." ++ method)).parts? =
      some (.receiver type.toList method.toList) := by
  apply PatternParts.read_eq_some_iff.mpr
  refine ⟨?_, PatternParts.is_receiver_iff_form.mpr isType, plain.is_name⟩
  simp only [String.toList_append]
  rfl

theorem parts_of_pair {left right : String} (path : IsPlainPath left)
    (plain : IsPlainName right) :
    (parse (left ++ "." ++ right)).parts? = some (.pair left.toList right.toList) := by
  apply PatternParts.read_eq_some_iff.mpr
  refine ⟨?_, by simpa using path.1, path.no_parenthesis, plain.is_name⟩
  simp only [String.toList_append]
  rfl

/-- Two calls of a method whose receivers are the same behind the pointer mark are
accepted by the same patterns. -/
theorem accepts_eq_of_same_pointee {type type' name : String} {parenthesized parenthesized' : Bool}
    (shaped : call.target.shape? = some (.method type name parenthesized))
    (shaped' : call'.target.shape? = some (.method type' name parenthesized'))
    (same : PatternParts.dropPointer type.toList = PatternParts.dropPointer type'.toList) :
    (parse source).accepts call = (parse source).accepts call' := by
  cases read : (parse source).parts? with
  | none => simp only [accepts, read]
  | some parts =>
      rw [accepts_of_parts read shaped, accepts_of_parts read shaped']
      cases parts with
      | receiver patternType method =>
          simp only [PatternParts.matchesShape, PatternParts.matches_receiver_of_same_pointee same]
      | pair left right =>
          simp only [PatternParts.matchesShape, PatternParts.matches_receiver_of_same_pointee same]
      | single pattern => rfl

structure IsPointee (type : String) : Prop where
  named : type ≠ ""
  unmarked : type.toList.head? ≠ some '*'
  undotted : type.toList.head? ≠ some '.'

section Pointee

variable {type method : String} (pointee : IsPointee type) (plain : IsPlainName method)

include pointee

theorem IsPointee.characters : type.toList ≠ [] := by
  simpa using pointee.named

include plain

theorem parts_of_pointee :
    (parse ("(" ++ type ++ ")." ++ method)).parts? =
      some (.receiver type.toList method.toList) :=
  parts_of_receiver
    (PatternParts.receiver_form_of_unmarked pointee.characters pointee.unmarked) plain

theorem parts_of_marked_pointee :
    (parse ("(*" ++ type ++ ")." ++ method)).parts? =
      some (.receiver ('*' :: type.toList) method.toList) := by
  have marked : ("*" ++ type).toList = '*' :: type.toList := by
    rw [String.toList_append]
    rfl
  have isType : PatternParts.IsReceiverForm ("*" ++ type).toList := by
    rw [marked]
    exact PatternParts.receiver_form_of_pointer pointee.characters pointee.unmarked
      pointee.undotted
  have read := parts_of_receiver isType plain
  rwa [marked, ← String.append_assoc] at read

theorem accepts_marked_eq :
    (parse ("(" ++ type ++ ")." ++ method)).accepts call =
      (parse ("(*" ++ type ++ ")." ++ method)).accepts call := by
  apply accepts_eq_of_parts (parts_of_pointee pointee plain) (parts_of_marked_pointee pointee plain)
  intro shape _
  cases shape with
  | method actualType name parenthesized =>
      simp only [PatternParts.matchesShape, PatternParts.matches_receiver_pointer
        pointee.characters pointee.unmarked pointee.undotted]
  | function package name => rfl
  | builtin name => rfl

/-- Without parentheses the type could also be a package, but not for a method. -/
theorem accepts_bare_eq (opening : '(' ∉ type.toList) (closing : ')' ∉ type.toList)
    (isMethod : call.kind.isMethod = true) :
    (parse (type ++ "." ++ method)).accepts call =
      (parse ("(" ++ type ++ ")." ++ method)).accepts call := by
  have bareParts := parts_of_pair ⟨pointee.named, opening, closing⟩ plain
  apply accepts_eq_of_parts bareParts (parts_of_pointee pointee plain)
  intro shape shaped
  obtain ⟨actualType, name, parenthesized, methodShape⟩ := CallTarget.shape_of_method isMethod
  rw [shaped] at methodShape
  cases methodShape
  rfl

end Pointee

/-- In a pattern for methods neither a pointer mark before the type nor the parentheses
around it count, and no pattern at all tells a method called on a type from the same
method called on a pointer to it. -/
theorem pointer_mark_and_parentheses_ignored :
    (∀ type method : String, IsPointee type → IsPlainName method →
      ((parse ("(" ++ type ++ ")." ++ method)).isValid = true ∧
        (parse ("(*" ++ type ++ ")." ++ method)).isValid = true ∧
        ∀ call, (parse ("(" ++ type ++ ")." ++ method)).accepts call =
          (parse ("(*" ++ type ++ ")." ++ method)).accepts call) ∧
      ('(' ∉ type.toList → ')' ∉ type.toList → ∀ call : ClassifiedCall,
        call.kind.isMethod = true →
          (parse (type ++ "." ++ method)).accepts call =
            (parse ("(" ++ type ++ ")." ++ method)).accepts call)) ∧
    (∀ (type name : String) (parenthesized : Bool) (call call' : ClassifiedCall),
      type.toList.head? ≠ some '*' →
      call.target.shape? = some (.method type name parenthesized) →
      call'.target.shape? = some (.method ("*" ++ type) name parenthesized) →
      ∀ source, (parse source).accepts call = (parse source).accepts call') := by
  constructor
  · intro type method pointee plain
    refine ⟨⟨?_, ?_, ?_⟩, ?_⟩
    · exact is_valid_of_parts (parts_of_pointee pointee plain)
    · exact is_valid_of_parts (parts_of_marked_pointee pointee plain)
    · intro call
      exact accepts_marked_eq pointee plain
    · intro opening closing call isMethod
      exact accepts_bare_eq pointee plain opening closing isMethod
  · intro type name parenthesized call call' unmarked shaped shaped' source
    apply accepts_eq_of_same_pointee shaped shaped'
    rw [String.toList_append, PatternParts.drop_pointer_unmarked unmarked]
    rfl

def valueCall : ClassifiedCall where
  target := .staticMethod (.method "example.com/call" "example.com/call.Foo" "Write")
  site := ⟨.direct ⟨0⟩, [⟨1⟩, ⟨2⟩]⟩

theorem pointer_and_value_call_alike :
    (IsPointee "example.com/call.Foo" ∧ IsPlainName "Write") ∧
      (parse "(*example.com/call.Foo).Write").accepts valueCall = true ∧
      (parse "example.com/call.Foo.Write").accepts valueCall = true ∧
      ∀ source, (parse source).accepts valueCall = (parse source).accepts pointerCall := by
  have pointee : IsPointee "example.com/call.Foo" := ⟨by decide, by decide, by decide⟩
  have plain : IsPlainName "Write" := by unfold IsPlainName; decide
  have accepted : (parse ("(" ++ "example.com/call.Foo" ++ ")." ++ "Write")).accepts valueCall =
      true := by decide +kernel
  obtain ⟨patterns, calls⟩ := pointer_mark_and_parentheses_ignored
  obtain ⟨⟨-, -, marked⟩, bare⟩ := patterns "example.com/call.Foo" "Write" pointee plain
  refine ⟨⟨pointee, plain⟩, (marked valueCall).symm.trans accepted, ?_, ?_⟩
  · exact (bare (by decide) (by decide) valueCall rfl).trans accepted
  · exact calls _ _ true valueCall pointerCall pointee.unmarked rfl rfl

end CallPattern

end LiteralFlow
