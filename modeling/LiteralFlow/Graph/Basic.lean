import LiteralFlow.Graph.BinaryOp
import LiteralFlow.Graph.Function
import LiteralFlow.Literal.Basic
import LiteralFlow.Span

/-!
Value graphs: the values of one function in static single assignment form.
Values name each other by index, so a graph can have cycles, and an index need
not belong to any value.
-/

namespace LiteralFlow

structure ValueId where
  index : Nat
deriving DecidableEq, Repr

def ValueId.text (id : ValueId) : String := s!"v{id.index}"

inductive CallMode where
  /-- A call of a function value. -/
  | direct (callee : ValueId)
  /-- A call of an interface method on a receiver. -/
  | invoke (receiver : ValueId) (method : MethodRef)
deriving DecidableEq, Repr

/-- A call. When a method is called directly, the receiver is its first argument. -/
structure CallSite where
  mode : CallMode
  args : List ValueId
deriving DecidableEq, Repr

namespace CallSite

def isInvoke (site : CallSite) : Bool :=
  match site.mode with
  | .direct _ => false
  | .invoke .. => true

/-- The value on which the call is made: a callee or a receiver. -/
def head (site : CallSite) : ValueId :=
  match site.mode with
  | .direct callee => callee
  | .invoke receiver _ => receiver

def operands (site : CallSite) : List ValueId := site.head :: site.args

end CallSite

inductive ValueKind where
  | const (literal : Literal)
  | binary (op : BinaryOp) (x y : ValueId)
  /-- One incoming value for each way into a block. -/
  | phi (edges : List ValueId)
  | call (site : CallSite)
  | slice (base : ValueId) (low high : Option ValueId)
  | function (func : FunctionRef)
  /-- A function of the language itself. -/
  | builtin (name : String)
  | closure (func : FunctionRef) (bindings : List ValueId)
  | deref (x : ValueId)
  /-- One component of a value with several results. -/
  | extract (tuple : ValueId) (index : Nat)
  /-- A value of which nothing is known. -/
  | unmodelled
deriving DecidableEq, Repr

def ValueKind.operands : ValueKind → List ValueId
  | const _ => []
  | binary _ x y => [x, y]
  | phi edges => edges
  | call site => site.operands
  | slice base low high => base :: (low.toList ++ high.toList)
  | function _ => []
  | builtin _ => []
  | closure _ bindings => bindings
  | deref x => [x]
  | extract tuple _ => [tuple]
  | unmodelled => []

structure ValueNode where
  name : String
  typeName : String
  span : Option Span
  kind : ValueKind
deriving DecidableEq, Repr

def ValueNode.ofKind (name : String) (kind : ValueKind) : ValueNode :=
  { name := name, typeName := "", span := none, kind := kind }

abbrev Lookup := ValueId → Option ValueNode

namespace Lookup

def kind? (lookup : Lookup) (id : ValueId) : Option ValueKind := (lookup id).map ValueNode.kind

/-- The call behind a value: itself, or the call of which it is a component. -/
def callSite? (lookup : Lookup) (id : ValueId) : Option CallSite :=
  match lookup.kind? id with
  | some (.call site) => some site
  | some (.extract tuple _) =>
      match lookup.kind? tuple with
      | some (.call site) => some site
      | _ => none
  | _ => none

end Lookup

structure ValueGraph where
  function : String
  nodes : Array ValueNode
deriving DecidableEq, Repr

inductive GraphError where
  | unknownValue (id : ValueId)
  | danglingOperand (owner : ValueId) (name : String) (missing : ValueId)
  /-- A fault that a caller describes. -/
  | described (text : String)
deriving DecidableEq, Repr

def GraphError.message : GraphError → String
  | unknownValue id => s!"unknown value {id.text}"
  | danglingOperand owner name missing =>
      s!"value {owner.text} ({name}) refers to unknown value {missing.text}"
  | described text => text

namespace ValueGraph

def empty (function : String) : ValueGraph := { function := function, nodes := #[] }

def size (graph : ValueGraph) : Nat := graph.nodes.size

def node? (graph : ValueGraph) : Lookup := fun id => graph.nodes[id.index]?

def kind? (graph : ValueGraph) (id : ValueId) : Option ValueKind := graph.node?.kind? id

def callSite? (graph : ValueGraph) (id : ValueId) : Option CallSite := graph.node?.callSite? id

def entries (graph : ValueGraph) : List (ValueId × ValueNode) :=
  graph.nodes.toList.zipIdx.map fun (node, index) => (⟨index⟩, node)

def add (graph : ValueGraph) (node : ValueNode) : ValueGraph × ValueId :=
  ({ graph with nodes := graph.nodes.push node }, ⟨graph.size⟩)

def setKind (graph : ValueGraph) (id : ValueId) (kind : ValueKind) :
    Except GraphError ValueGraph :=
  match graph.node? id with
  | none => .error (.unknownValue id)
  | some node => .ok { graph with nodes := graph.nodes.set! id.index { node with kind := kind } }

def missingOperand? (graph : ValueGraph) (kind : ValueKind) : Option ValueId :=
  kind.operands.find? fun id => graph.size ≤ id.index

/-- Refuses a graph in which a value reads an unknown one. The first such value
is reported with the first such operand. -/
def validate (graph : ValueGraph) : Except GraphError Unit :=
  match graph.entries.findSome? fun (id, node) =>
      (graph.missingOperand? node.kind).map fun missing =>
        GraphError.danglingOperand id node.name missing with
  | some error => .error error
  | none => .ok ()

end ValueGraph

end LiteralFlow
