import LiteralFlow.Error
import LiteralFlow.Resolve.Text
import LiteralFlow.Text.Inspect

/-!
Resolvers over a graph: for texts with a configuration and the listings of the
source text, and for integers with a depth bound.
-/

namespace LiteralFlow

def defaultMaxDepth : Nat := 10

structure TextResolver where
  graph : ValueGraph
  maxDepth : Nat
  formatPattern : CallPattern
  joinPattern : CallPattern
  listings : ListingLookup

namespace TextResolver

def ofConfig (graph : ValueGraph) (config : ResolverConfig) : TextResolver :=
  { graph := graph
    maxDepth := config.maxDepth
    formatPattern := CallPattern.parse config.formatFunction
    joinPattern := CallPattern.parse config.joinFunction
    listings := ListingLookup.none }

def ofValidConfig (graph : ValueGraph) (config : ResolverConfig) : Except Error TextResolver :=
  match config.validate with
  | .error cause => .error (.config cause)
  | .ok () => .ok (ofConfig graph config)

def withListings (resolver : TextResolver) (listings : ListingLookup) : TextResolver :=
  { resolver with listings := listings }

def withMaxDepth (resolver : TextResolver) (maxDepth : Nat) : TextResolver :=
  { resolver with maxDepth := maxDepth }

def context (resolver : TextResolver) : Resolve.TextContext :=
  { lookup := resolver.graph.node?
    formatPattern := resolver.formatPattern
    joinPattern := resolver.joinPattern
    listings := resolver.listings }

def resolveFrom (resolver : TextResolver) (id : ValueId) (depth bound : Nat) :
    Candidates String :=
  Resolve.textsFrom resolver.context id depth bound

def resolve (resolver : TextResolver) (id : ValueId) : Candidates String :=
  resolver.resolveFrom id 0 resolver.maxDepth

def resolveAll (resolver : TextResolver) (ids : List ValueId) : List (Candidates String) :=
  ids.map resolver.resolve

def describe (resolver : TextResolver) : String :=
  let function := Text.inspect resolver.graph.function
  let format := Text.inspect resolver.formatPattern.source
  let join := Text.inspect resolver.joinPattern.source
  s!"StringResolver \x7b function: {function}, max_depth: {resolver.maxDepth}, " ++
    s!"format: {format}, join: {join} \x7d"

end TextResolver

structure IntegerResolver where
  graph : ValueGraph
  maxDepth : Nat

namespace IntegerResolver

def ofConfig (graph : ValueGraph) (config : ResolverConfig) : IntegerResolver :=
  { graph := graph, maxDepth := config.maxDepth }

def ofValidConfig (graph : ValueGraph) (config : ResolverConfig) :
    Except Error IntegerResolver :=
  match config.validate with
  | .error cause => .error (.config cause)
  | .ok () => .ok (ofConfig graph config)

def withMaxDepth (resolver : IntegerResolver) (maxDepth : Nat) : IntegerResolver :=
  { resolver with maxDepth := maxDepth }

def resolveFrom (resolver : IntegerResolver) (id : ValueId) (depth bound : Nat) :
    Candidates Int :=
  Resolve.integersFrom resolver.graph.node? id depth bound

def resolve (resolver : IntegerResolver) (id : ValueId) : Candidates Int :=
  resolver.resolveFrom id 0 resolver.maxDepth

def resolveAll (resolver : IntegerResolver) (ids : List ValueId) : List (Candidates Int) :=
  ids.map resolver.resolve

end IntegerResolver

namespace ValueGraph

/-- The texts that a value can be, without access to source text. -/
def texts (graph : ValueGraph) (id : ValueId) (maxDepth : Nat) : Candidates String :=
  ((TextResolver.ofConfig graph .default).withMaxDepth maxDepth).resolve id

def integers (graph : ValueGraph) (id : ValueId) (maxDepth : Nat) : Candidates Int :=
  ((IntegerResolver.ofConfig graph .default).withMaxDepth maxDepth).resolve id

end ValueGraph

end LiteralFlow
