import LiteralFlow.Error
import LiteralFlow.Json.Decode
import LiteralFlow.Json.Reader

/-!
Reading graphs from JSON documents.

Records can leave out members that have a default, and unknown members are
ignored. A kind names itself in one member and has its data in another, and data
that comes first is kept until the kind is known. Kept data has some freedom
that other data does not: an empty object stands for nothing as well as `null`
does, and the mode of a call can be given by its number.
-/

namespace LiteralFlow

open Json (Fields)

namespace Span

def coordinateLimit : Nat := 0x100000000

def decode? (room : Nat) (json : Json) : Option Span :=
  match room with
  | 0 => none
  | _ + 1 => do
      let fields ← Json.recordFields? ["start_line", "start_col", "end_line", "end_col"] json
      let coordinate key := fields.required? key (Json.natBelow? coordinateLimit)
      some ⟨⟨← coordinate "start_line", ← coordinate "start_col"⟩,
        ⟨← coordinate "end_line", ← coordinate "end_col"⟩⟩

end Span

/-- The value of an alternative without content. -/
def decodeNothing? (kept : Bool) (json : Json) : Option Unit :=
  match json with
  | .null => some ()
  | .object [] => if kept then some () else none
  | _ => none

namespace Literal

def decodeAs? (kept : Bool) (tag : String) (content : Json) : Option Literal :=
  match tag with
  | "string" => content.text?.map .string
  | "int" => content.text?.map .int
  | "float" => content.text?.map .float
  | "bool" => content.bool?.map .bool
  | "nil" => (decodeNothing? kept content).map fun _ => .nil
  | _ => none

def decode? (kept : Bool) (room : Nat) (json : Json) : Option Literal :=
  match json, room with
  | .string (some "nil"), _ => some .nil
  | .object [(some tag, content)], _ + 1 => decodeAs? kept tag content
  | _, _ => none

end Literal

namespace BinaryOp

def ofTag? : String → Option BinaryOp
  | "add" => some add
  | "sub" => some sub
  | "mul" => some mul
  | "div" => some div
  | _ => none

def decode? (kept : Bool) (room : Nat) (json : Json) : Option BinaryOp :=
  match json, room with
  | .string (some tag), _ => ofTag? tag
  | .object [(some tag, content)], _ + 1 => do
      decodeNothing? kept content
      ofTag? tag
  | _, _ => none

end BinaryOp

namespace ValueId

def limit : Nat := 0x10000000000000000

def decode? (json : Json) : Option ValueId := (json.natBelow? limit).map ValueId.mk

end ValueId

namespace FunctionRef

/-- A function before its chain of origins. -/
def derived (head : FunctionName) : Option FunctionRef → FunctionRef
  | none => { head with origins := [] }
  | some origin => { head with origins := origin.toFunctionName :: origin.origins }

def decode? : Nat → Json → Option FunctionRef
  | 0, _ => none
  | room + 1, json => do
      let fields ← Json.recordFields? ["name", "package", "receiver", "origin"] json
      let name ← fields.required? "name" Json.text?
      let package ← fields.optional? "package" none (Json.nullable? Json.text?)
      let receiver ← fields.optional? "receiver" none (Json.nullable? Json.text?)
      let origin ← fields.optional? "origin" none (Json.nullable? (decode? room))
      some (derived ⟨name, package, receiver⟩ origin)

end FunctionRef

namespace MethodRef

def decode? (room : Nat) (json : Json) : Option MethodRef :=
  match room with
  | 0 => none
  | _ + 1 => do
      let fields ← Json.recordFields? ["name", "package"] json
      let name ← fields.required? "name" Json.text?
      let package ← fields.optional? "package" none (Json.nullable? Json.text?)
      some ⟨name, package⟩

end MethodRef

namespace CallMode

def tag? (kept : Bool) : Json → Option String
  | .string tag => tag
  | .number number =>
      if kept then
        match number.nat? with
        | some 0 => some "direct"
        | some 1 => some "invoke"
        | _ => none
      else none
  | _ => none

def keysOf : String → List String
  | "direct" => ["callee"]
  | "invoke" => ["receiver", "method"]
  | _ => []

def ofFields? (room : Nat) (tag : String) (fields : Fields) : Option CallMode :=
  match tag with
  | "direct" => do
      some (.direct (← fields.required? "callee" ValueId.decode?))
  | "invoke" => do
      let receiver ← fields.required? "receiver" ValueId.decode?
      let method ← fields.required? "method" (MethodRef.decode? room)
      some (.invoke receiver method)
  | _ => none

/-- A mode, whose members are kept until its name is known. -/
def decode? (kept : Bool) (room : Nat) (json : Json) : Option CallMode :=
  match json, room with
  | .object members, room + 1 => do
      let fields ← Json.fields? members
      let tag ← fields.required? "mode" (tag? kept)
      let others := fields.filter fun (key, _) => key ≠ "mode"
      if kept || others.all fun (_, value) => value.isKeepable room then
        ofFields? room tag others
      else none
  | .array (first :: items), room + 1 => do
      let tag ← tag? kept first
      let keys := keysOf tag
      if items.length ≤ keys.length && (kept || items.all (Json.isKeepable room)) then
        ofFields? room tag (keys.zip items)
      else none
  | _, _ => none

end CallMode

namespace CallSite

def decode? (kept : Bool) (room : Nat) (json : Json) : Option CallSite :=
  match room with
  | 0 => none
  | room + 1 => do
      let fields ← Json.recordFields? ["mode", "args"] json
      let mode ← fields.required? "mode" (CallMode.decode? kept room)
      let args ← fields.optional? "args" [] (Json.list? (fun _ => ValueId.decode?) room)
      some ⟨mode, args⟩

end CallSite

namespace ValueKind

/-- The name of a kind in an object, which can also be the key of an object. -/
def tag? (room : Nat) (json : Json) : Option String :=
  match json, room with
  | .string tag, _ => tag
  | .object [(tag, .null)], _ + 1 => tag
  | _, _ => none

def ofFields? (kept : Bool) (room : Nat) (tag : String) (fields : Fields) : Option ValueKind :=
  let id? key := fields.required? key ValueId.decode?
  let bound? key := fields.optional? key none (Json.nullable? ValueId.decode?)
  match tag with
  | "bin_op" => do
      let op ← fields.required? "op" (BinaryOp.decode? kept room)
      some (.binary op (← id? "x") (← id? "y"))
  | "phi" => do
      some (.phi (← fields.required? "edges" (Json.list? (fun _ => ValueId.decode?) room)))
  | "slice" => do
      some (.slice (← id? "base") (← bound? "low") (← bound? "high"))
  | "builtin" => do
      some (.builtin (← fields.required? "name" Json.text?))
  | "make_closure" => do
      let func ← fields.required? "func" (FunctionRef.decode? room)
      let bindings ← fields.optional? "bindings" []
        (Json.list? (fun _ => ValueId.decode?) room)
      some (.closure func bindings)
  | "deref" => do
      some (.deref (← id? "x"))
  | "extract" => do
      let tuple ← id? "tuple"
      some (.extract tuple (← fields.required? "index" (Json.natBelow? ValueId.limit)))
  | _ => none

def ofData? (kept : Bool) (room : Nat) (tag : String) (data : Json) : Option ValueKind :=
  match tag with
  | "const" => (Literal.decode? kept room data).map .const
  | "call" => (CallSite.decode? kept room data).map .call
  | "function" => (FunctionRef.decode? room data).map .function
  | "opaque" =>
      match data with
      | .null => some .unmodelled
      | _ => none
  | _ =>
      match room with
      | 0 => none
      | room + 1 => do
          ofFields? kept room tag (← data.objectFields?)

/-- A kind from an object with its name and its data, or an array of the two. -/
def decode? (room : Nat) (json : Json) : Option ValueKind :=
  match json, room with
  | .object members, room + 1 => do
      let fields ← Json.fields? members
      match fields.filter fun (key, _) => key = "kind" || key = "data" with
      | [("kind", tag)] => if (← tag? room tag) = "opaque" then some .unmodelled else none
      | [("kind", tag), ("data", data)] => do
          ofData? false room (← tag? room tag) data
      | [("data", data), ("kind", tag)] => do
          if data.isKeepable room then ofData? true room (← tag? room tag) data else none
      | _ => none
  | .array [tag, data], room + 1 => do
      ofData? false room (← tag.text?) data
  | _, _ => none

end ValueKind

namespace ValueNode

def decode? (room : Nat) (json : Json) : Option ValueNode :=
  match room with
  | 0 => none
  | room + 1 => do
      let fields ← Json.recordFields? ["name", "ty", "span", "kind"] json
      let name ← fields.required? "name" Json.text?
      let typeName ← fields.optional? "ty" "" Json.text?
      let span ← fields.optional? "span" none (Json.nullable? (Span.decode? room))
      let kind ← fields.required? "kind" (ValueKind.decode? room)
      some ⟨name, typeName, span, kind⟩

end ValueNode

namespace ValueGraph

def decode? (room : Nat) (json : Json) : Option ValueGraph :=
  match room with
  | 0 => none
  | room + 1 => do
      let fields ← Json.recordFields? ["function", "nodes"] json
      let function ← fields.optional? "function" "" Json.text?
      let nodes ← fields.required? "nodes" (Json.list? ValueNode.decode? room)
      some ⟨function, nodes.toArray⟩

def ofJson? (json : Json) : Option ValueGraph := decode? Json.maximumNesting json

def parse (text : String) : Except Error ValueGraph :=
  match (Json.parse? text).bind ofJson? with
  | none => .error .document
  | some graph =>
      match graph.validate with
      | .error cause => .error (.graph cause)
      | .ok () => .ok graph

end ValueGraph

end LiteralFlow
