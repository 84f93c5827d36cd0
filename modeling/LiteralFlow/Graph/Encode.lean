import LiteralFlow.Graph.Basic
import LiteralFlow.Json.Printer

/-!
Writing graphs as JSON documents. Every member is written, in a fixed order.
-/

namespace LiteralFlow

namespace Span

def encode (span : Span) : Json :=
  .record
    [("start_line", .nat span.start.line), ("start_col", .nat span.start.column),
      ("end_line", .nat span.stop.line), ("end_col", .nat span.stop.column)]

end Span

namespace Literal

def encode : Literal → Json
  | string source => .record [("string", .text source)]
  | int source => .record [("int", .text source)]
  | float source => .record [("float", .text source)]
  | bool value => .record [("bool", .bool value)]
  | nil => .text "nil"

end Literal

namespace BinaryOp

def tag : BinaryOp → String
  | add => "add"
  | sub => "sub"
  | mul => "mul"
  | div => "div"

end BinaryOp

namespace ValueId

def encode (id : ValueId) : Json := .nat id.index

def encodeAll (ids : List ValueId) : Json := .array (ids.map encode)

end ValueId

namespace FunctionRef

def encodeFrom (head : FunctionName) : List FunctionName → Json
  | [] =>
      .record
        [("name", .text head.name), ("package", Json.ofOption .text head.package),
          ("receiver", Json.ofOption .text head.receiver), ("origin", .null)]
  | origin :: origins =>
      .record
        [("name", .text head.name), ("package", Json.ofOption .text head.package),
          ("receiver", Json.ofOption .text head.receiver), ("origin", encodeFrom origin origins)]

def encode (func : FunctionRef) : Json := encodeFrom func.toFunctionName func.origins

end FunctionRef

namespace MethodRef

def encode (method : MethodRef) : Json :=
  .record [("name", .text method.name), ("package", Json.ofOption .text method.package)]

end MethodRef

namespace CallMode

def encode : CallMode → Json
  | direct callee => .record [("mode", .text "direct"), ("callee", callee.encode)]
  | invoke receiver method =>
      .record
        [("mode", .text "invoke"), ("receiver", receiver.encode), ("method", method.encode)]

end CallMode

namespace CallSite

def encode (site : CallSite) : Json :=
  .record [("mode", site.mode.encode), ("args", ValueId.encodeAll site.args)]

end CallSite

namespace ValueKind

def encodeAs (tag : String) (data : Json) : Json := .record [("kind", .text tag), ("data", data)]

def encode : ValueKind → Json
  | const literal => encodeAs "const" literal.encode
  | binary op x y =>
      encodeAs "bin_op" (.record [("op", .text op.tag), ("x", x.encode), ("y", y.encode)])
  | phi edges => encodeAs "phi" (.record [("edges", ValueId.encodeAll edges)])
  | call site => encodeAs "call" site.encode
  | slice base low high =>
      encodeAs "slice"
        (.record
          [("base", base.encode), ("low", Json.ofOption ValueId.encode low),
            ("high", Json.ofOption ValueId.encode high)])
  | function func => encodeAs "function" func.encode
  | builtin name => encodeAs "builtin" (.record [("name", .text name)])
  | closure func bindings =>
      encodeAs "make_closure"
        (.record [("func", func.encode), ("bindings", ValueId.encodeAll bindings)])
  | deref x => encodeAs "deref" (.record [("x", x.encode)])
  | extract tuple index =>
      encodeAs "extract" (.record [("tuple", tuple.encode), ("index", .nat index)])
  | unmodelled => .record [("kind", .text "opaque")]

end ValueKind

namespace ValueNode

def encode (node : ValueNode) : Json :=
  .record
    [("name", .text node.name), ("ty", .text node.typeName),
      ("span", Json.ofOption Span.encode node.span), ("kind", node.kind.encode)]

end ValueNode

namespace ValueGraph

def encode (graph : ValueGraph) : Json :=
  .record
    [("function", .text graph.function),
      ("nodes", .array (graph.nodes.toList.map ValueNode.encode))]

def render (graph : ValueGraph) : String := graph.encode.toPrettyText

end ValueGraph

end LiteralFlow
