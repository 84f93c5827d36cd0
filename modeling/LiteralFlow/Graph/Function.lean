/-!
Names of functions and methods. An instance of a generic function has the chain
of functions that it was made from, the nearest one first.
-/

namespace LiteralFlow

/-- One function or method: a method has the type of its receiver, and an
instance of a generic function has no package. -/
structure FunctionName where
  name : String
  package : Option String
  receiver : Option String
deriving DecidableEq, Repr

structure FunctionRef extends FunctionName where
  origins : List FunctionName
deriving DecidableEq, Repr

namespace FunctionRef

def function (package name : String) : FunctionRef :=
  { name := name, package := some package, receiver := none, origins := [] }

def method (package receiver name : String) : FunctionRef :=
  { name := name, package := some package, receiver := some receiver, origins := [] }

def instantiate (name : String) (origin : FunctionRef) : FunctionRef :=
  { name := name, package := none, receiver := origin.receiver
    origins := origin.toFunctionName :: origin.origins }

def isMethod (func : FunctionRef) : Bool := func.receiver.isSome

/-- The first function from `head` along `origins` that has a package, or else
the last one. -/
def declarationOf (head : FunctionName) : List FunctionName → FunctionRef
  | [] => { head with origins := [] }
  | origin :: origins =>
      if head.package.isSome then { head with origins := origin :: origins }
      else declarationOf origin origins

/-- The function that gives a reference its name. -/
def declaration (func : FunctionRef) : FunctionRef :=
  declarationOf func.toFunctionName func.origins

end FunctionRef

/-- A method of an interface. Those of predeclared interfaces have no package. -/
structure MethodRef where
  name : String
  package : Option String
deriving DecidableEq, Repr

end LiteralFlow
