import LiteralFlow.Call.Classify
import LiteralFlow.Config.Basic
import LiteralFlow.Format
import LiteralFlow.Listing.Basic
import LiteralFlow.Resolve.Integer
import LiteralFlow.Text.Bytes

/-!
Resolution of texts: literals, phis, concatenation, slices by byte offsets, and
two calls that a configuration names: one formats, and one joins the literals of
a listing in source text.
-/

namespace LiteralFlow.Resolve

structure TextContext where
  lookup : Lookup
  formatPattern : CallPattern
  joinPattern : CallPattern
  listings : ListingLookup

namespace TextContext

def ofConfig (lookup : Lookup) (config : ResolverConfig) (listings : ListingLookup) :
    TextContext :=
  { lookup := lookup
    formatPattern := CallPattern.parse config.formatFunction
    joinPattern := CallPattern.parse config.joinFunction
    listings := listings }

end TextContext

def concatenate (xs ys : Candidates String) : Candidates String :=
  xs.flatMap fun x => ys.map fun y => x ++ y

/-- The length of a text in bytes, as far as the word can hold it. -/
def lengthOf (text : String) : Int :=
  min (Text.byteLength text.toList : Int) Integer.maximum

def substring? (text : String) (low high : Int) : Option String :=
  if 0 ≤ low ∧ 0 ≤ high then
    (Text.sliceBytes? text.toList low.toNat high.toNat).map String.ofList
  else none

def isLengthOf (lookup : Lookup) (base : ValueId) (site : CallSite) : Bool :=
  (site.classify lookup).target = .builtinFunction "len" && site.args = [base]

/-- The rules for a bound of a slice: those for integers, and `len(base)` is the
length of the text that is cut. -/
def boundRules (lookup : Lookup) (base : ValueId) (length : Int) : Rules Int where
  literal? := Literal.integer?
  plan node _ :=
    match node.kind with
    | .call site => if isLengthOf lookup base site then .found [length] else .found []
    | kind => integerPlan kind

def boundCandidates (lookup : Lookup) (base : ValueId) (length absent : Int)
    (descent : Descent) : Option ValueId → Candidates Int
  | none => [absent]
  | some bound =>
      resolveFrom lookup (boundRules lookup base length) bound descent.depth descent.bound

def cuts (text : String) (lows highs : Candidates Int) : Candidates String :=
  lows.flatMap fun low => highs.filterMap fun high => substring? text low high

def sliceText (lookup : Lookup) (base : ValueId) (low high : Option ValueId)
    (descent : Descent) (text : String) : Candidates String :=
  let length := lengthOf text
  cuts text (boundCandidates lookup base length 0 descent low)
    (boundCandidates lookup base length length descent high)

/-- The plan for a call that formats: only one candidate for the format counts. -/
def formatPlan (call : ClassifiedCall) : Plan String :=
  match call.args[0]? with
  | none => .found []
  | some format =>
      .ask format fun formats =>
        .found ((Candidates.only? formats).bind Format.emulate?).toList

/-- The literals of the listing at a value's place, if there are any and all can
be decoded. -/
def listedTexts? (context : TextContext) (elements : ValueId) : Option (List String) := do
  let node ← context.lookup elements
  let span ← node.span
  let tokens ← context.listings span
  let texts ← tokens.mapM fun token => (Literal.unquote token).toOption
  if texts.isEmpty then none else some texts

/-- The plan for a call that joins: only one candidate for the separator counts. -/
def joinPlan (context : TextContext) (call : ClassifiedCall) : Plan String :=
  match call.args[0]?, call.args[1]? with
  | some elements, some separator =>
      .ask separator fun separators =>
        .found (do
          let separator ← Candidates.only? separators
          let texts ← listedTexts? context elements
          some (separator.intercalate texts)).toList
  | _, _ => .found []

def callPlan (context : TextContext) (site : CallSite) : Plan String :=
  let call := site.classify context.lookup
  if call.kind ≠ .staticFunction then .found []
  else if context.formatPattern.accepts call then formatPlan call
  else if context.joinPattern.accepts call then joinPlan context call
  else .found []

def textPlan (context : TextContext) (node : ValueNode) (descent : Descent) : Plan String :=
  match node.kind with
  | .binary .add x y => .ask x fun xs => .ask y fun ys => .found (concatenate xs ys)
  | .call site => callPlan context site
  | .slice base low high =>
      .ask base fun texts =>
        .found (texts.flatMap (sliceText context.lookup base low high descent))
  | _ => .found []

def textRules (context : TextContext) : Rules String where
  literal? := Literal.text?
  plan := textPlan context

def textsFrom (context : TextContext) (id : ValueId) (depth bound : Nat) : Candidates String :=
  resolveFrom context.lookup (textRules context) id depth bound

end LiteralFlow.Resolve
