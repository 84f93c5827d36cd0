import LiteralFlow.Proofs.Call.PointerMark
import Mathlib.Logic.Relation

/-!
Wildcards widen patterns. A pattern with a part replaced by a wildcard is again a
pattern, read back with the parts that were meant, and it accepts every call that
the pattern accepted before.
-/

namespace LiteralFlow

namespace PatternParts

/-- One part of a pattern, or the name of the type inside its receiver, is replaced by
a wildcard. -/
inductive Widens : PatternParts → PatternParts → Prop where
  | receiver (type method : List Char) :
      Widens (.receiver type method) (.receiver ['*'] method)
  | qualifiedReceiver (type method : List Char) :
      Widens (.receiver type method) (.receiver ['*', '.', '*'] method)
  /-- The pointer mark of the type, if it has one, begins the package here. -/
  | typeName {package type : List Char} (qualified : package ≠ []) (dotless : '.' ∉ type)
      (method : List Char) :
      Widens (.receiver (package ++ '.' :: type) method) (.receiver (package ++ ['.', '*']) method)
  | method (type method : List Char) : Widens (.receiver type method) (.receiver type ['*'])
  | left (left right : List Char) : Widens (.pair left right) (.pair ['*'] right)
  | right (left right : List Char) : Widens (.pair left right) (.pair left ['*'])
  | single (name : List Char) : Widens (.single name) (.single ['*'])

theorem drop_pointer_append {front : List Char} (nonempty : front ≠ []) (back : List Char) :
    dropPointer (front ++ back) = dropPointer front ++ back := by
  obtain ⟨first, rest, rfl⟩ := List.exists_cons_of_ne_nil nonempty
  by_cases marked : first = '*'
  · subst marked
    rfl
  · rw [drop_pointer_unmarked (by simpa using marked),
      drop_pointer_unmarked (by simpa using marked)]

/-- The receiver that stands for every type is the wildcard of the package `*`. -/
theorem any_receiver_divided {package type : List Char}
    (same : package ++ '.' :: type = anyReceiver) (dotless : '.' ∉ type) :
    package ++ ['.', '*'] = anyReceiver := by
  have divided : package ++ '.' :: type = ['*'] ++ '.' :: ['*'] := same
  obtain ⟨rfl, -⟩ := Text.last_division_unique divided dotless (by decide)
  rfl

/-- A receiver stays one when its type becomes a wildcard. -/
theorem is_receiver_any_type {package type : List Char} (qualified : package ≠ [])
    (dotless : '.' ∉ type) (isType : isReceiver (package ++ '.' :: type) = true) :
    isReceiver (package ++ ['.', '*']) = true := by
  rw [is_receiver_iff_form] at isType ⊢
  obtain ⟨first, rest, rfl⟩ := List.exists_cons_of_ne_nil qualified
  -- The form is decided by the first two characters, and a package behind a pointer mark
  -- cannot be empty.
  generalize whole : first :: rest ++ '.' :: type = receiver at isType
  cases isType with
  | any => simp at whole
  | anyQualified =>
      rw [any_receiver_divided whole dotless]
      exact .anyQualified
  | type star =>
      obtain ⟨rfl, -⟩ := List.cons.inj whole
      exact .type star
  | pointer dot star =>
      obtain ⟨rfl, pointee⟩ := List.cons.inj whole
      cases rest with
      | nil => exact absurd (List.cons.inj pointee).1.symm dot
      | cons second rest =>
          obtain ⟨rfl, -⟩ := List.cons.inj pointee
          exact .pointer dot star

/-- A receiver that a type matches is matched by the wildcard of the type's package. -/
theorem matches_receiver_any_type {package type actual : List Char} (qualified : package ≠ [])
    (dotless : '.' ∉ type) (matched : matchesReceiver (package ++ '.' :: type) actual = true) :
    matchesReceiver (package ++ ['.', '*']) actual = true := by
  rw [matches_receiver_eq_true_iff] at matched ⊢
  rw [drop_pointer_append qualified] at matched ⊢
  rcases matched with isWildcard | isAny | same |
    ⟨matchedPackage, actualType, divided, named, plain⟩
  · exact absurd isWildcard (by simp [wildcard, List.append_eq_cons_iff, qualified])
  · exact .inr (.inl (any_receiver_divided isAny dotless))
  · exact .inr (.inr (.inr ⟨dropPointer package, type, rfl, same.symm, dotless⟩))
  · -- The type was a wildcard already.
    obtain ⟨rfl, rfl⟩ := Text.last_division_unique divided dotless (by decide)
    exact .inr (.inr (.inr ⟨_, actualType, rfl, named, plain⟩))

variable {shape : NameShape}

/-- A wider receiver and a wider name make a wider pattern for methods. -/
theorem receiver_matches_of_wider {type type' method method' : List Char}
    (types : ∀ actual, matchesReceiver type actual = true → matchesReceiver type' actual = true)
    (names : ∀ actual, matchesPart method actual = true → matchesPart method' actual = true)
    (matched : (receiver type method).matchesShape shape = true) :
    (receiver type' method').matchesShape shape = true := by
  cases shape with
  | method actualType name parenthesized =>
      simp only [matchesShape, Bool.and_eq_true] at matched ⊢
      exact ⟨types _ matched.1, names _ matched.2⟩
  | function package name => cases matched
  | builtin name => cases matched

/-- A left part is read in two ways: as a receiver and as a package. -/
theorem pair_matches_of_wider {left left' right right' : List Char}
    (types : ∀ actual, matchesReceiver left actual = true → matchesReceiver left' actual = true)
    (packages : ∀ actual, matchesPart left actual = true → matchesPart left' actual = true)
    (names : ∀ actual, matchesPart right actual = true → matchesPart right' actual = true)
    (matched : (pair left right).matchesShape shape = true) :
    (pair left' right').matchesShape shape = true := by
  cases shape with
  | method actualType name parenthesized =>
      simp only [matchesShape, Bool.and_eq_true] at matched ⊢
      exact ⟨types _ matched.1, names _ matched.2⟩
  | function package name =>
      simp only [matchesShape, Bool.and_eq_true] at matched ⊢
      exact ⟨packages _ matched.1, names _ matched.2⟩
  | builtin name => cases matched

namespace Widens

variable {parts wider : PatternParts}

theorem fits (widens : Widens parts wider) (fits : parts.Fits) : wider.Fits := by
  cases widens with
  | receiver type method => exact ⟨rfl, fits.2⟩
  | qualifiedReceiver type method => exact ⟨rfl, fits.2⟩
  | typeName qualified dotless method =>
      exact ⟨is_receiver_any_type qualified dotless fits.1, fits.2⟩
  | method type method => exact ⟨fits.1, rfl⟩
  | left left right => exact ⟨List.cons_ne_nil _ _, rfl, fits.2.2⟩
  | right left right => exact ⟨fits.1, fits.2.1, rfl⟩
  | single name => exact rfl

theorem matches_shape (widens : Widens parts wider) (matched : parts.matchesShape shape = true) :
    wider.matchesShape shape = true := by
  cases widens with
  | receiver type method =>
      exact receiver_matches_of_wider (fun _ _ => rfl) (fun _ same => same) matched
  | qualifiedReceiver type method =>
      exact receiver_matches_of_wider (fun _ _ => rfl) (fun _ same => same) matched
  | typeName qualified dotless method =>
      exact receiver_matches_of_wider
        (fun _ same => matches_receiver_any_type qualified dotless same) (fun _ same => same)
        matched
  | method type method =>
      exact receiver_matches_of_wider (fun _ same => same) (fun _ _ => rfl) matched
  | left left right =>
      exact pair_matches_of_wider (fun _ _ => rfl) (fun _ _ => rfl) (fun _ same => same) matched
  | right left right =>
      exact pair_matches_of_wider (fun _ same => same) (fun _ same => same) (fun _ _ => rfl) matched
  | single name =>
      cases shape with
      | method actualType name parenthesized => cases matched
      | function package name => cases matched
      | builtin name => rfl

/-- What one replacement keeps, any number of replacements keep. -/
theorem chain_keeps (widens : Relation.ReflTransGen Widens parts wider) (fits : parts.Fits)
    (matched : parts.matchesShape shape = true) :
    wider.Fits ∧ wider.matchesShape shape = true := by
  induction widens with
  | refl => exact ⟨fits, matched⟩
  | tail _ last kept => exact ⟨last.fits kept.1, last.matches_shape kept.2⟩

end Widens

end PatternParts

namespace CallPattern

open PatternParts

/-- When parts of a pattern are replaced by wildcards, one after the other, the new text
is a valid pattern and read with the parts that were meant. It accepts every call that
the old one accepts. -/
theorem widened_pattern_accepts (source : String) (parts wider : PatternParts)
    (read : (parse source).parts? = some parts)
    (widens : Relation.ReflTransGen Widens parts wider) (call : ClassifiedCall)
    (accepted : (parse source).accepts call = true) :
    (parse (String.ofList wider.text)).parts? = some wider ∧
      (parse (String.ofList wider.text)).isValid = true ∧
      (parse (String.ofList wider.text)).accepts call = true := by
  cases shaped : call.target.shape? with
  | none =>
      rw [not_accepts_of_no_shape shaped] at accepted
      cases accepted
  | some shape =>
      rw [accepts_of_parts read shaped] at accepted
      obtain ⟨fits, matched⟩ := Widens.chain_keeps widens (fits_of_read read).2 accepted
      have readBack : (parse (String.ofList wider.text)).parts? = some wider :=
        read_eq_some_iff.mpr ⟨String.toList_ofList.symm, fits⟩
      rw [accepts_of_parts readBack shaped]
      exact ⟨readBack, is_valid_of_parts readBack, matched⟩

/-- A type in a package, then any type of the package, any type at all, and any method. -/
theorem pointer_call_widened :
    (parse "(*example.com/call.Foo).Write").accepts pointerCall = true ∧
      (parse "(*example.com/call.*).Write").accepts pointerCall = true ∧
      (parse "(*.*).*").accepts pointerCall = true := by
  have read : (parse "(*example.com/call.Foo).Write").parts? =
      some (.receiver ("*example.com/call".toList ++ '.' :: "Foo".toList) "Write".toList) := by
    decide +kernel
  have accepted : (parse "(*example.com/call.Foo).Write").accepts pointerCall = true := by
    decide +kernel
  have package := Widens.typeName (by decide : "*example.com/call".toList ≠ [])
    (by decide : '.' ∉ "Foo".toList) "Write".toList
  have chain := ((Relation.ReflTransGen.single package).tail
    (.qualifiedReceiver _ _)).tail (.method _ _)
  exact ⟨accepted,
    (widened_pattern_accepts _ _ _ read (.single package) pointerCall accepted).2.2,
    (widened_pattern_accepts _ _ _ read chain pointerCall accepted).2.2⟩

end CallPattern

end LiteralFlow
