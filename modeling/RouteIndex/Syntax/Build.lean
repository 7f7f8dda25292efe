/-
  Building syntax trees by hand, one function for each shape of source that a front end lowers.
-/

import RouteIndex.Syntax.Node

namespace RouteIndex.Syntax.Build

/-- A whole source file. -/
def compilationUnit (children : List Node) : Node :=
  ⟨.compilationUnit, none, children⟩

/-- A block of statements. -/
def block (children : List Node) : Node :=
  ⟨.block, none, children⟩

/-- A name. -/
def identifier (name : String) : Node :=
  ⟨.identifier, some name, []⟩

/-- A string literal with its value. -/
def stringLiteral (value : String) : Node :=
  ⟨.stringLiteral, some value, []⟩

/-- An integer literal. -/
def numericLiteral (value : Int) : Node :=
  ⟨.numericLiteral, some (String.ofList (Text.integerDigits value)), []⟩

/-- A lambda with what it holds. -/
def lambda (children : List Node) : Node :=
  ⟨.lambda, none, children⟩

/-- A member of a receiver. -/
def memberAccess (receiver : Node) (name : String) : Node :=
  ⟨.memberAccess, none, [receiver, identifier name]⟩

/-- An argument list with one argument for each expression. -/
def argumentList (expressions : List Node) : Node :=
  ⟨.argumentList, none, expressions.map fun e => ⟨.argument, none, [e]⟩⟩

/-- A call. -/
def invocation (callee : Node) (arguments : List Node) : Node :=
  ⟨.invocation, none, [callee, argumentList arguments]⟩

/-- The registration of a route, `app.<method>(route, handler)`. -/
def mapCall (method : String) (route handler : Node) : Node :=
  invocation (memberAccess (identifier "app") method) [route, handler]

/-- An attribute; without arguments it has no argument list. -/
def attributeNode (name : String) (arguments : List Node) : Node :=
  ⟨.attribute, some name, if arguments.isEmpty then [] else [argumentList arguments]⟩

/-- A declaration: its attributes, then a block that holds its body. -/
def declaration (name : String) (attributes body : List Node) : Node :=
  ⟨.declaration, some name, attributes ++ [block body]⟩

end RouteIndex.Syntax.Build
