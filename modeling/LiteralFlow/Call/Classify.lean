import LiteralFlow.Call.Basic

/-!
Classification of calls. Every call has a kind: a callee of which the graph
shows nothing is computed at run time.
-/

namespace LiteralFlow

namespace CallTarget

def nameAt (lookup : Lookup) (id : ValueId) : String :=
  ((lookup id).map ValueNode.name).getD ""

/-- A name for a callee computed at run time: that of the value it was called
on or loaded from, or else its own. -/
def dynamicLabel (lookup : Lookup) (callee : ValueId) : String :=
  match lookup callee with
  | none => ""
  | some node =>
      match node.kind with
      | .call inner => nameAt lookup inner.head
      | .deref x => nameAt lookup x
      | _ => node.name

def ofCallee (lookup : Lookup) (callee : ValueId) : CallTarget :=
  match lookup.kind? callee with
  | some (.builtin name) => .builtinFunction name
  | some (.closure func _) => .closure func
  | some (.function func) =>
      if func.isMethod then .staticMethod func else .staticFunction func.declaration
  | _ => .dynamicFunction (dynamicLabel lookup callee)

def ofMode (lookup : Lookup) : CallMode → CallTarget
  | .direct callee => ofCallee lookup callee
  | .invoke receiver method =>
      let receiverType := ((lookup receiver).map ValueNode.typeName).getD ""
      if method.package.isNone then .builtinDynamicMethod receiver receiverType method
      else .dynamicMethod receiver receiverType method

end CallTarget

namespace CallSite

def classify (lookup : Lookup) (site : CallSite) : ClassifiedCall :=
  ⟨CallTarget.ofMode lookup site.mode, site⟩

end CallSite

def Lookup.call? (lookup : Lookup) (id : ValueId) : Option ClassifiedCall :=
  (lookup.callSite? id).map (CallSite.classify lookup)

namespace ValueGraph

def classify (graph : ValueGraph) (site : CallSite) : ClassifiedCall := site.classify graph.node?

def call? (graph : ValueGraph) (id : ValueId) : Option ClassifiedCall := graph.node?.call? id

end ValueGraph

end LiteralFlow
