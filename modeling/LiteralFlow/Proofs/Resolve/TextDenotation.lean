import LiteralFlow.Proofs.Call.Target
import LiteralFlow.Proofs.Resolve.IntegerDenotation
import LiteralFlow.Proofs.Text.Bytes

/-!
What texts a value of a graph denotes, told without depths and bounds.

Resolution of texts finds only denoted ones. It finds all of them that need
neither of the two calls that a configuration names: such a call is computed
only when its argument has one candidate, so a text that it denotes can be
missed.
-/

namespace LiteralFlow.Resolve

/-- The part of a text between two byte offsets. Both offsets are then in the
text and in this order, and none is inside a character. -/
def IsCut (text : String) (low high : Int) (part : String) : Prop :=
  ∃ before after : String, text = before ++ part ++ after ∧
    (before.utf8ByteSize : Int) = low ∧ ((before ++ part).utf8ByteSize : Int) = high

/-- The length of a text in bytes. A text too long for the word, which no memory
holds, counts as the greatest word. -/
def wordLength (text : String) : Int := min (text.utf8ByteSize : Int) Integer.maximum

/-- The call of the builtin `len` on `base` alone, which stands for the length of
the text that is cut. -/
def LengthCall (lookup : Lookup) (base : ValueId) (text : String) (site : CallSite)
    (n : Int) : Prop :=
  (∃ callee, site.mode = .direct callee ∧ lookup.kind? callee = some (.builtin "len")) ∧
    site.args = [base] ∧ n = wordLength text

inductive DenotesBound (lookup : Lookup) (base : ValueId) (text : String) (absent : Int) :
    Option ValueId → Int → Nat → Prop where
  | absent : DenotesBound lookup base text absent none absent 0
  | present {id : ValueId} {n : Int} {height : Nat}
      (denotes : DenotesInteger lookup (LengthCall lookup base text) id n height) :
      DenotesBound lookup base text absent (some id) n height

def Listed (context : TextContext) (elements : ValueId) (texts : List String) : Prop :=
  texts ≠ [] ∧ ∃ node span tokens, context.lookup elements = some node ∧
    node.span = some span ∧ context.listings span = some tokens ∧
    tokens.map Literal.unquote = texts.map .ok

def IsFormat (context : TextContext) (site : CallSite) : Prop :=
  (site.classify context.lookup).kind = .staticFunction ∧
    context.formatPattern.accepts (site.classify context.lookup) = true

/-- A call of a package function that the join pattern matches and the format
pattern does not. -/
def IsJoin (context : TextContext) (site : CallSite) : Prop :=
  (site.classify context.lookup).kind = .staticFunction ∧
    context.formatPattern.accepts (site.classify context.lookup) = false ∧
      context.joinPattern.accepts (site.classify context.lookup) = true

/-- The value `id` denotes `text` with the given height. Calls that format or
join count only when `computed` is set. -/
inductive DenotesText (context : TextContext) (computed : Bool) :
    ValueId → String → Nat → Prop where
  | literal {id : ValueId} {source text : String}
      (kind : context.lookup.kind? id = some (.const (.string source)))
      (unquoted : Literal.unquote source = .ok text) :
      DenotesText context computed id text 0
  | phi {id edge : ValueId} {edges : List ValueId} {text : String} {height : Nat}
      (kind : context.lookup.kind? id = some (.phi edges)) (member : edge ∈ edges)
      (denotes : DenotesText context computed edge text height) :
      DenotesText context computed id text (height + 1)
  | concatenation {id x y : ValueId} {first second : String} {left right : Nat}
      (kind : context.lookup.kind? id = some (.binary .add x y))
      (denotesLeft : DenotesText context computed x first left)
      (denotesRight : DenotesText context computed y second right) :
      DenotesText context computed id (first ++ second) (max left right + 1)
  | slice {id base : ValueId} {low high : Option ValueId} {text part : String}
      {lo hi : Int} {ofBase ofLow ofHigh : Nat}
      (kind : context.lookup.kind? id = some (.slice base low high))
      (denotes : DenotesText context computed base text ofBase)
      (denotesLow : DenotesBound context.lookup base text 0 low lo ofLow)
      (denotesHigh : DenotesBound context.lookup base text (wordLength text) high hi ofHigh)
      (cut : IsCut text lo hi part) :
      DenotesText context computed id part (max ofBase (max ofLow ofHigh) + 1)
  | format {id first : ValueId} {site : CallSite} {format text : String} {height : Nat}
      (allowed : computed = true) (kind : context.lookup.kind? id = some (.call site))
      (isFormat : IsFormat context site) (argument : site.args[0]? = some first)
      (denotes : DenotesText context computed first format height)
      (emulated : Format.emulate? format = some text) :
      DenotesText context computed id text (height + 1)
  | join {id elements second : ValueId} {site : CallSite} {texts : List String}
      {separator : String} {height : Nat}
      (allowed : computed = true) (kind : context.lookup.kind? id = some (.call site))
      (isJoin : IsJoin context site) (argument : site.args[0]? = some elements)
      (separatorArgument : site.args[1]? = some second)
      (listed : Listed context elements texts)
      (denotes : DenotesText context computed second separator height) :
      DenotesText context computed id (separator.intercalate texts) (height + 1)

theorem substring_eq_some_iff {text part : String} {low high : Int} :
    substring? text low high = some part ↔ IsCut text low high part := by
  simp only [substring?, IsCut]
  constructor
  · intro found
    split at found
    · rename_i nonnegative
      simp only [Option.map_eq_some_iff, Text.slice_bytes_eq_some_iff] at found
      obtain ⟨characters, ⟨before, after, joined, lowLength, highLength⟩, rfl⟩ := found
      refine ⟨String.ofList before, String.ofList after, ?_, ?_, ?_⟩
      · rw [← String.ofList_append, ← String.ofList_append, ← joined, String.ofList_toList]
      · rw [← Text.byte_length_to_list, String.toList_ofList]
        omega
      · rw [← String.ofList_append, ← Text.byte_length_to_list, String.toList_ofList]
        omega
    · cases found
  · intro cut
    rcases cut with ⟨before, after, rfl, rfl, rfl⟩
    have nonnegative : 0 ≤ (before.utf8ByteSize : Int) ∧
        0 ≤ ((before ++ part).utf8ByteSize : Int) := by omega
    rw [if_pos nonnegative, Option.map_eq_some_iff]
    refine ⟨part.toList, ?_, String.ofList_toList⟩
    rw [Text.slice_bytes_eq_some_iff]
    refine ⟨before.toList, after.toList, ?_, ?_, ?_⟩
    · simp only [String.toList_append]
    · rw [Text.byte_length_to_list, Int.toNat_natCast]
    · rw [← String.toList_append, Text.byte_length_to_list, Int.toNat_natCast]

theorem length_of_eq (text : String) : lengthOf text = wordLength text := by
  rw [lengthOf, wordLength, Text.byte_length_to_list]

def lengthCandidates (lookup : Lookup) (base : ValueId) (length : Int) (site : CallSite) :
    Candidates Int :=
  if isLengthOf lookup base site then [length] else []

theorem bound_rules_eq_arithmetic (lookup : Lookup) (base : ValueId) (length : Int) :
    boundRules lookup base length = arithmeticRules (lengthCandidates lookup base length) := by
  simp only [boundRules, arithmeticRules, Rules.mk.injEq, true_and]
  funext node descent
  cases node.kind with
  | call site =>
      simp only [lengthCandidates]
      split <;> rfl
  | _ => rfl

theorem is_length_of_iff {lookup : Lookup} {base : ValueId} {site : CallSite} :
    isLengthOf lookup base site = true ↔
      (∃ callee, site.mode = .direct callee ∧ lookup.kind? callee = some (.builtin "len")) ∧
        site.args = [base] := by
  simp only [isLengthOf, Bool.and_eq_true, decide_eq_true_eq, CallSite.builtin_target_iff]

theorem mem_length_candidates_iff {lookup : Lookup} {base : ValueId} {text : String}
    {site : CallSite} {n : Int} :
    n ∈ lengthCandidates lookup base (lengthOf text) site ↔
      LengthCall lookup base text site n := by
  rw [lengthCandidates, LengthCall, length_of_eq, ← and_assoc, ← is_length_of_iff]
  split
  · rename_i isLength
    simp only [List.mem_singleton, isLength, true_and]
  · rename_i other
    simp only [List.not_mem_nil, other, Bool.false_eq_true, false_and]

theorem mem_bound_candidates_iff {lookup : Lookup} {base : ValueId} {text : String}
    {absent n : Int} {descent : Descent} {id : Option ValueId}
    (within : descent.depth ≤ descent.bound) :
    n ∈ boundCandidates lookup base (lengthOf text) absent descent id ↔
      ∃ height, height < descent.bound + 1 - descent.depth ∧
        DenotesBound lookup base text absent id n height := by
  cases id with
  | none =>
      simp only [boundCandidates, List.mem_singleton]
      constructor
      · intro same
        subst same
        exact ⟨0, by omega, .absent⟩
      · intro denoted
        rcases denoted with ⟨height, -, denotes⟩
        cases denotes
        rfl
  | some id =>
      have measured :
          (fun site value => value ∈ lengthCandidates lookup base (lengthOf text) site) =
            LengthCall lookup base text := by
        funext site value
        exact propext mem_length_candidates_iff
      simp only [boundCandidates, resolveFrom, bound_rules_eq_arithmetic,
        mem_walk_arithmetic_iff, measured]
      constructor
      · intro denoted
        rcases denoted with ⟨height, below, denotes⟩
        exact ⟨height, below, .present denotes⟩
      · intro denoted
        rcases denoted with ⟨height, below, denotes⟩
        cases denotes with
        | present denotes => exact ⟨height, below, denotes⟩

end LiteralFlow.Resolve
