/-
  A walk by a stack is the walk by recursion on the tree.

  1. **Visits** — whatever is pending in a walk, its visits are the recursive orders of the pending
     nodes, one after the other from the top of the stack down (`visits_eq_flatMap_preorder`).  The
     induction is along the walk, which gets smaller by one node with each visit; what a visit puts
     on the stack is the rest of the order of its node.
  2. **Places** — a scope is passed down through the recursion.  `Node.places` keeps all nodes above
     a node instead, so that the nearest declaration strictly above it can be looked up
     (`Place.declaration?`); `preorder_eq_map_places` says that this is the scope.
  3. **Counts** — there are as many places as nodes, so a walk over a tree visits each of them once.
-/

import RouteIndex.Syntax.Walk

namespace RouteIndex.Syntax

/-! ## Visits of a walk -/

/-- A node comes first, and behind it its children in their scope. -/
theorem Node.preorder_eq_cons (scope : Option Node) (n : Node) :
    n.preorder scope = ⟨n, scope⟩ :: Node.preorders (n.innerScope scope) n.children := by
  obtain ⟨kind, text, children⟩ := n
  rw [Node.preorder]

/-- The orders of some nodes in one scope, one behind the other. -/
theorem Node.preorders_eq_flatMap (scope : Option Node) (ns : List Node) :
    Node.preorders scope ns = ns.flatMap (Node.preorder scope) := by
  induction ns with
  | nil => rw [Node.preorders, List.flatMap_nil]
  | cons n ns ih => rw [Node.preorders, ih, List.flatMap_cons]

namespace Walk

/-- A walk that is over visits nothing more. -/
theorem visits_of_end {w : Walk} (h : w.next? = none) : w.visits = [] := by
  rw [visits]
  split
  · rfl
  · rename_i hnext
    rw [h] at hnext
    cases hnext

/-- A walk visits its next node and then what the rest of it visits.  Together with the law above
this is how the recursion of `visits` is used. -/
theorem visits_of_next {w rest : Walk} {v : Visit} (h : w.next? = some (v, rest)) :
    w.visits = v :: rest.visits := by
  rw [visits]
  split
  · rename_i hnext
    rw [h] at hnext
    cases hnext
  · rename_i hnext
    rw [h] at hnext
    obtain ⟨rfl, rfl⟩ := Prod.mk.inj (Option.some.inj hnext)
    rfl

/-- **The visits of a walk are the orders of its pending nodes**, the next one first.  A visit takes
a node from the stack and puts its children there, in their scope; this is how its order goes on. -/
theorem visits_eq_flatMap_preorder (w : Walk) :
    w.visits = w.pending.flatMap fun v => v.node.preorder v.scope := by
  induction w using visits.induct with
  | case1 w hend =>
    obtain ⟨pending⟩ := w
    cases pending with
    | nil => exact visits_of_end hend
    | cons v pending => nomatch hend
  | case2 w v rest hnext ih =>
    obtain ⟨pending⟩ := w
    cases pending with
    | nil => nomatch hnext
    | cons u pending =>
      obtain ⟨rfl, rfl⟩ := Prod.mk.inj (Option.some.inj hnext)
      -- The children come in front of what was pending, each in the scope that its parent opens.
      have hchildren : (childVisits u).flatMap (fun v => v.node.preorder v.scope) =
          Node.preorders (u.node.innerScope u.scope) u.node.children := by
        rw [Node.preorders_eq_flatMap, childVisits, List.flatMap_map]
      rw [visits_of_next hnext, ih, List.flatMap_append, hchildren, List.flatMap_cons,
        Node.preorder_eq_cons, List.cons_append]

/-- A walk over a tree is the order of its root. -/
theorem visits_start (root : Node) : (start root).visits = root.preorder none := by
  rw [visits_eq_flatMap_preorder, start, List.flatMap_singleton]

end Walk

/-! ## Places -/

/-- A node where it stands in a tree. -/
structure Place where
  node : Node
  /-- The nodes above it, the nearest first. -/
  above : List Node
  deriving DecidableEq

/-- The nearest declaration strictly above a place. -/
def Place.declaration? (p : Place) : Option Node :=
  p.above.find? (·.kind = .declaration)

mutual

/-- The place of a node and those of all nodes below it, in reading order. -/
def Node.places (above : List Node) : Node → List Place
  | ⟨kind, text, children⟩ =>
    ⟨⟨kind, text, children⟩, above⟩ :: Node.placesOf (⟨kind, text, children⟩ :: above) children

/-- The places in a list of trees below the same nodes. -/
def Node.placesOf (above : List Node) : List Node → List Place
  | [] => []
  | n :: ns => n.places above ++ Node.placesOf above ns

end

/-- The visit of a place inside a scope. -/
def Place.visitIn (scope : Option Node) (p : Place) : Visit :=
  ⟨p.node, p.declaration?.or scope⟩

/-- The scope inside a node is the nearest declaration among the node and those above it, and if
there is none, it is the scope that everything stands in. -/
theorem Node.innerScope_or (n : Node) (above : List Node) (scope : Option Node) :
    n.innerScope ((above.find? (·.kind = .declaration)).or scope) =
      ((n :: above).find? (·.kind = .declaration)).or scope := by
  unfold Node.innerScope
  by_cases hkind : n.kind = .declaration
  · rw [if_pos hkind, List.find?_cons_of_pos (by simp [hkind])]
    rfl
  · rw [if_neg hkind, List.find?_cons_of_neg (by simp [hkind])]

mutual

/-- **The scope that is passed down is the nearest declaration above**, or else the scope that the
whole tree stands in.  The induction is on the tree, with the nodes above it left open. -/
theorem Node.preorder_eq_map_places (scope : Option Node) (above : List Node) :
    ∀ n : Node, n.preorder ((above.find? (·.kind = .declaration)).or scope) =
      (n.places above).map (Place.visitIn scope)
  | ⟨kind, text, children⟩ => by
    rw [Node.preorder, Node.places, List.map_cons, Node.innerScope_or,
      Node.preorders_eq_map_placesOf]
    rfl

/-- The same for the children of a node, which stand below the same nodes. -/
theorem Node.preorders_eq_map_placesOf (scope : Option Node) (above : List Node) :
    ∀ ns : List Node, Node.preorders ((above.find? (·.kind = .declaration)).or scope) ns =
      (Node.placesOf above ns).map (Place.visitIn scope)
  | [] => by rw [Node.preorders, Node.placesOf, List.map_nil]
  | n :: ns => by
    rw [Node.preorders, Node.placesOf, List.map_append, Node.preorder_eq_map_places scope above n,
      Node.preorders_eq_map_placesOf scope above ns]

end

/-- The visits of a walk over a tree are its places, each with its nearest declaration.  From here
on a scan can be told without a stack. -/
theorem Walk.visits_start_eq_map_places (root : Node) :
    (Walk.start root).visits = (root.places []).map (Place.visitIn none) :=
  (Walk.visits_start root).trans (Node.preorder_eq_map_places none [] root)

/-! ## Counts -/

mutual

/-- There are as many places as nodes, so a walk over a tree counts its size. -/
theorem Node.length_places (above : List Node) : ∀ n : Node, (n.places above).length = n.size
  | ⟨kind, text, children⟩ => by
    rw [Node.places, Node.size, List.length_cons, Node.length_placesOf]

theorem Node.length_placesOf (above : List Node) :
    ∀ ns : List Node, (Node.placesOf above ns).length = Node.sizes ns
  | [] => by rw [Node.placesOf, Node.sizes, List.length_nil]
  | n :: ns => by
    rw [Node.placesOf, Node.sizes, List.length_append, Node.length_places above n,
      Node.length_placesOf above ns]

end

end RouteIndex.Syntax
