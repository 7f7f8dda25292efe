/-
  Syntax nodes: the shapes of a source file that matter for finding route registrations, whatever
  parser made them.

  A node has a kind, perhaps a text, and children in the order of the source.  The functions after
  the type read the two shapes that carry arguments: a call (callee, then an argument list) and an
  attribute (with an argument list or without).
-/

import RouteIndex.Json.Fields

namespace RouteIndex.Syntax

/-- The kind of a node. -/
inductive Kind where
  | compilationUnit
  | declaration
  | attribute
  | invocation
  | memberAccess
  | identifier
  | argumentList
  | argument
  | stringLiteral
  | numericLiteral
  | lambda
  | block
  | other
  deriving DecidableEq, Repr, Inhabited

/-- Every kind once. -/
def Kind.all : List Kind :=
  [.compilationUnit, .declaration, .attribute, .invocation, .memberAccess, .identifier,
    .argumentList, .argument, .stringLiteral, .numericLiteral, .lambda, .block, .other]

/-- The name of a kind. -/
def Kind.name : Kind → String
  | .compilationUnit => "compilation_unit"
  | .declaration => "declaration"
  | .attribute => "attribute"
  | .invocation => "invocation"
  | .memberAccess => "member_access"
  | .identifier => "identifier"
  | .argumentList => "argument_list"
  | .argument => "argument"
  | .stringLiteral => "string_literal"
  | .numericLiteral => "numeric_literal"
  | .lambda => "lambda"
  | .block => "block"
  | .other => "other"

/-- The kind of a name. -/
def Kind.ofName? (s : String) : Option Kind :=
  all.find? (·.name = s)

/-- A node of a syntax tree. -/
structure Node where
  kind : Kind
  text : Option String
  children : List Node
  deriving Inhabited

namespace Node

/-! ## Equality -/

mutual

/-- Whether two nodes are equal. -/
def decEq : (a b : Node) → Decidable (a = b)
  | ⟨kind, text, children⟩, ⟨kind', text', children'⟩ =>
    if hk : kind = kind' then
      if ht : text = text' then
        match decEqs children children' with
        | isTrue hc => isTrue (by rw [hk, ht, hc])
        | isFalse hc => isFalse fun h => hc (Node.mk.inj h).2.2
      else isFalse fun h => ht (Node.mk.inj h).2.1
    else isFalse fun h => hk (Node.mk.inj h).1

/-- Whether two lists of nodes are equal. -/
def decEqs : (as bs : List Node) → Decidable (as = bs)
  | [], [] => isTrue rfl
  | [], _ :: _ => isFalse nofun
  | _ :: _, [] => isFalse nofun
  | a :: as, b :: bs =>
    match decEq a b with
    | isTrue h =>
      match decEqs as bs with
      | isTrue hs => isTrue (by rw [h, hs])
      | isFalse hs => isFalse fun e => hs (List.cons.inj e).2
    | isFalse h => isFalse fun e => h (List.cons.inj e).1

end

instance : DecidableEq Node :=
  decEq

/-! ## Size -/

mutual

/-- The number of nodes in the tree below and including a node. -/
def size : Node → Nat
  | ⟨_, _, children⟩ => sizes children + 1

/-- The number of nodes in a list of trees. -/
def sizes : List Node → Nat
  | [] => 0
  | n :: ns => n.size + sizes ns

end

/-! ## Children -/

/-- The child at a position, counted from zero. -/
def child? (n : Node) (i : Nat) : Option Node :=
  n.children[i]?

/-- The child at a position, if it has the kind. -/
def childOfKind? (n : Node) (i : Nat) (k : Kind) : Option Node :=
  (n.child? i).filter (·.kind = k)

/-- The children of a kind, in order. -/
def childrenOfKind (n : Node) (k : Kind) : List Node :=
  n.children.filter (·.kind = k)

/-! ## Arguments -/

/-- What an argument passes on: its first child, or itself when it has none. -/
def expression (argument : Node) : Node :=
  (argument.child? 0).getD argument

/-- The expressions of an argument list; its other children do not count. -/
def expressions (list : Node) : List Node :=
  (list.childrenOfKind .argument).map expression

/-- The expressions passed by a call: those of its second child, which must be an argument list. -/
def callArguments? (n : Node) : Option (List Node) :=
  if n.kind = .invocation then (n.childOfKind? 1 .argumentList).map expressions else none

/-- The expressions passed by an attribute: those of its first argument list. -/
def attributeArguments (n : Node) : List Node :=
  match n.childrenOfKind .argumentList with
  | list :: _ => list.expressions
  | [] => []

end Node

end RouteIndex.Syntax
