import LiteralFlow.Graph.Basic

/-!
Classified calls: which of seven kinds a call has, the name under which rules
speak of it, and the arguments that the program wrote.
-/

namespace LiteralFlow

inductive CallKind where
  | staticMethod
  | dynamicMethod
  | builtinDynamicMethod
  | staticFunction
  | builtinFunction
  | closure
  | dynamicFunction
deriving DecidableEq, Repr

namespace CallKind

def label : CallKind → String
  | staticMethod => "static_method_call"
  | dynamicMethod => "dynamic_method_call"
  | builtinDynamicMethod => "builtin_dynamic_method_call"
  | staticFunction => "static_function_call"
  | builtinFunction => "builtin_static_function_call"
  | closure => "static_function_closure_call"
  | dynamicFunction => "dynamic_function_call"

def tag : CallKind → String
  | staticMethod => "StaticMethodCall"
  | dynamicMethod => "DynamicMethodCall"
  | builtinDynamicMethod => "BuiltinDynamicMethodCall"
  | staticFunction => "StaticFunctionCall"
  | builtinFunction => "BuiltinStaticFunctionCall"
  | closure => "StaticFunctionClosureCall"
  | dynamicFunction => "DynamicFunctionCall"

def isMethod : CallKind → Bool
  | staticMethod | dynamicMethod | builtinDynamicMethod => true
  | _ => false

end CallKind

/-- What a call calls, as far as the graph shows it. -/
inductive CallTarget where
  | staticMethod (func : FunctionRef)
  | dynamicMethod (receiver : ValueId) (receiverType : String) (method : MethodRef)
  | builtinDynamicMethod (receiver : ValueId) (receiverType : String) (method : MethodRef)
  | staticFunction (func : FunctionRef)
  | builtinFunction (name : String)
  | closure (func : FunctionRef)
  /-- A function computed at run time, with the name of a value near it. -/
  | dynamicFunction (label : String)
deriving DecidableEq, Repr

inductive NameShape where
  | method (receiver name : String) (parenthesized : Bool)
  | function (package name : String)
  | builtin (name : String)
deriving DecidableEq, Repr

def NameShape.text : NameShape → String
  | method receiver name true => s!"({receiver}).{name}"
  | method receiver name false => s!"{receiver}.{name}"
  | function package name => s!"{package}.{name}"
  | builtin name => name

namespace CallTarget

def kind : CallTarget → CallKind
  | staticMethod _ => .staticMethod
  | dynamicMethod .. => .dynamicMethod
  | builtinDynamicMethod .. => .builtinDynamicMethod
  | staticFunction _ => .staticFunction
  | builtinFunction _ => .builtinFunction
  | closure _ => .closure
  | dynamicFunction _ => .dynamicFunction

/-- The structure of the name. A function computed at run time has none. -/
def shape? : CallTarget → Option NameShape
  | staticMethod func => some (.method (func.receiver.getD "") func.name true)
  | dynamicMethod _ receiverType method => some (.method receiverType method.name false)
  | builtinDynamicMethod _ receiverType method => some (.method receiverType method.name false)
  | staticFunction func => some (.function (func.package.getD "") func.name)
  | builtinFunction name => some (.builtin name)
  | closure func => some (.function (func.package.getD "") func.name)
  | dynamicFunction _ => none

def name : CallTarget → String
  | dynamicFunction label => label
  | target => (target.shape?.map NameShape.text).getD ""

def package? : CallTarget → Option String
  | staticMethod func => func.package
  | dynamicMethod _ _ method => method.package
  | staticFunction func => func.package
  | closure func => func.package
  | _ => none

end CallTarget

structure ClassifiedCall where
  target : CallTarget
  site : CallSite
deriving DecidableEq, Repr

structure ArgumentError where
  index : Nat
  count : Nat
deriving DecidableEq, Repr

namespace ClassifiedCall

def kind (call : ClassifiedCall) : CallKind := call.target.kind

def name (call : ClassifiedCall) : String := call.target.name

def package? (call : ClassifiedCall) : Option String := call.target.package?

def receiver? (call : ClassifiedCall) : Option ValueId :=
  match call.target with
  | .staticMethod _ => call.site.args.head?
  | .dynamicMethod receiver _ _ => some receiver
  | .builtinDynamicMethod receiver _ _ => some receiver
  | _ => none

def args (call : ClassifiedCall) : List ValueId :=
  match call.target with
  | .staticMethod _ => call.site.args.drop 1
  | _ => call.site.args

def arg (call : ClassifiedCall) (index : Nat) : Except ArgumentError ValueId :=
  match call.args[index]? with
  | some id => .ok id
  | none => .error ⟨index, call.args.length⟩

def missingArgument (call : ClassifiedCall) (index : Nat) : String :=
  s!"argument index {index} out of range for {call.kind.label} with {call.args.length} argument(s)"

end ClassifiedCall

end LiteralFlow
