/-
  Walking a syntax tree in reading order: every node before its children, and the children from
  left to right.

  A `Walk` is a walk under way, the nodes that are still to be visited with the next one first.  It
  takes one node off and puts the node's children in front, so the depth of a tree costs no depth of
  recursion.  `Node.preorder` gives the same visits by recursion on the tree; that is the order that
  the walk is meant to have.

  Each node is visited together with its scope, the nearest declaration strictly above it.
-/

import RouteIndex.Syntax.Node

namespace RouteIndex.Syntax

/-- A node and its scope. -/
structure Visit where
  node : Node
  scope : Option Node
  deriving DecidableEq, Inhabited

/-- The scope of the children of a node that is visited with a scope. -/
def Node.innerScope (n : Node) (scope : Option Node) : Option Node :=
  if n.kind = .declaration then some n else scope

/-! ## By a stack -/

/-- A walk under way: what is still to be visited, next first. -/
structure Walk where
  pending : List Visit
  deriving DecidableEq, Inhabited

namespace Walk

/-- The walk over the tree below a node, the node included. -/
def start (root : Node) : Walk :=
  ⟨[⟨root, none⟩]⟩

/-- The visits of the children of a visited node. -/
def childVisits (v : Visit) : List Visit :=
  v.node.children.map fun child => ⟨child, v.node.innerScope v.scope⟩

/-- The next visit and the walk after it. -/
def next? : Walk → Option (Visit × Walk)
  | ⟨[]⟩ => none
  | ⟨v :: rest⟩ => some (v, ⟨childVisits v ++ rest⟩)

/-- The number of nodes that are still to be visited. -/
def size (w : Walk) : Nat :=
  Node.sizes (w.pending.map (·.node))

theorem sizes_append (ns ms : List Node) : Node.sizes (ns ++ ms) = Node.sizes ns + Node.sizes ms := by
  induction ns with
  | nil => simp [Node.sizes]
  | cons n ns ih => simp [Node.sizes, ih, Nat.add_assoc]

/-- Each step visits exactly one of the nodes that were to be visited. -/
theorem size_of_next? {w rest : Walk} {v : Visit} (h : w.next? = some (v, rest)) :
    w.size = rest.size + 1 := by
  obtain ⟨pending⟩ := w
  cases pending with
  | nil => simp [next?] at h
  | cons u us =>
    obtain ⟨⟨kind, text, children⟩, scope⟩ := u
    simp only [next?, Option.some.injEq, Prod.mk.injEq] at h
    obtain ⟨rfl, rfl⟩ := h
    simp only [size, childVisits, List.map_cons, List.map_append, List.map_map, Function.comp_def,
      List.map_id', sizes_append, Node.sizes, Node.size]
    omega

/-- All visits that are still to come, in order. -/
def visits (w : Walk) : List Visit :=
  match _h : w.next? with
  | none => []
  | some (v, rest) => v :: rest.visits
termination_by w.size
decreasing_by
  have := size_of_next? _h
  omega

end Walk

/-! ## By recursion on the tree -/

mutual

/-- The visits of a node and all nodes below it. -/
def Node.preorder (scope : Option Node) : Node → List Visit
  | ⟨kind, text, children⟩ =>
    ⟨⟨kind, text, children⟩, scope⟩ ::
      Node.preorders (Node.innerScope ⟨kind, text, children⟩ scope) children

/-- The visits of a list of trees in the same scope. -/
def Node.preorders (scope : Option Node) : List Node → List Visit
  | [] => []
  | n :: ns => n.preorder scope ++ Node.preorders scope ns

end

end RouteIndex.Syntax
