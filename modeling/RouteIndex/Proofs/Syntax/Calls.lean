/-
  A walk, call by call.

  1. **Calls** — a call yields the next visit and leaves the rest of the walk; a walk that has come to
     its end yields nothing and stays as it is.  `after` is the state that so many calls lead to.
  2. **Invariant** — the visits that a walk still makes are consumed from the front, one for each call
     (`visits_after`, by induction over the calls).  So the call behind `k` others yields the visit at
     position `k` of them, or nothing once they are used up (`call_after`).
  3. **Measure** — the stack may grow with any call.  What falls is the number of nodes below it, by
     one with each visit, and that is how many visits there still are (`length_visits`).
  4. **`calls_yield_stacked_orders`** — in every state that calls lead to, the visits still to come are
     the recursive orders of what is on the stack.
-/

import RouteIndex.Proofs.Syntax.Walk

namespace RouteIndex.Syntax.Walk

/-! ## Calls -/

/-- One call: the visit that it yields, if there is one, and the walk behind it. -/
def call (w : Walk) : Option Visit × Walk :=
  match w.next? with
  | some (v, rest) => (some v, rest)
  | none => (none, w)

/-- The walk behind so many calls. -/
def after (w : Walk) : Nat → Walk
  | 0 => w
  | k + 1 => (w.after k).call.2

/-- Calls can be made in two goes. -/
theorem after_add (w : Walk) (k j : Nat) : w.after (k + j) = (w.after k).after j := by
  induction j with
  | zero => rfl
  | succ j ih =>
    show (w.after (k + j)).call.2 = ((w.after k).after j).call.2
    rw [ih]

/-! ## Visits still to come -/

/-- A call yields the first of the visits still to come, or nothing if there are none. -/
theorem call_eq_head? (w : Walk) : w.call.1 = w.visits.head? := by
  rw [call]
  cases h : w.next? with
  | none => rw [visits_of_end h, List.head?_nil]
  | some next => rw [visits_of_next h, List.head?_cons]

/-- It takes this visit away and no other one; at the end nothing is left to take. -/
theorem visits_call (w : Walk) : w.call.2.visits = w.visits.tail := by
  rw [call]
  cases h : w.next? with
  | none => rw [visits_of_end h, List.tail_nil]
  | some next => rw [visits_of_next h, List.tail_cons]

/-- Each call takes one visit away, so `k` calls take the first `k`.  This is the invariant of the
walk, by induction over the calls. -/
theorem visits_after (w : Walk) (k : Nat) : (w.after k).visits = w.visits.drop k := by
  induction k with
  | zero => rw [after, List.drop_zero]
  | succ k ih => rw [after, visits_call, ih, List.tail_drop]

/-- The call behind `k` others yields the visit at position `k`.  So all that a walk ever yields is
told by one list. -/
theorem call_after (w : Walk) (k : Nat) : (w.after k).call.1 = w.visits[k]? := by
  rw [call_eq_head?, visits_after, List.head?_drop]

/-! ## Nodes below the stack -/

/-- A call that yields a visit takes one node off those below the stack, although it may put several
nodes on the stack. -/
theorem size_call {w : Walk} {v : Visit} (h : w.call.1 = some v) : w.size = w.call.2.size + 1 := by
  rw [call] at h ⊢
  cases hnext : w.next? with
  | none =>
    rw [hnext] at h
    cases h
  | some next => exact size_of_next? hnext

/-- There are as many visits to come as nodes below the stack: both fall by one with each call that
yields. -/
theorem length_visits (w : Walk) : w.visits.length = w.size := by
  -- along the walk, as its visits are defined: the end has an empty stack, a call takes one node off
  induction w using visits.induct with
  | case1 w hend =>
    obtain ⟨pending⟩ := w
    cases pending with
    | nil => rw [visits_of_end hend, List.length_nil, size, List.map_nil, Node.sizes]
    | cons v pending => cases hend
  | case2 w v rest hnext ih => rw [visits_of_next hnext, List.length_cons, ih, size_of_next? hnext]

/-! ## Orders on the stack -/

/-- What a stack stands for: from the top to the bottom, every stacked node and all below it in reading
order, each with the nearest declaration strictly above it inside the stacked node, or else with the
scope that was stacked. -/
def stackedOrders (w : Walk) : List Visit :=
  w.pending.flatMap fun v => (v.node.places []).map (Place.visitIn v.scope)

/-- The visits still to come are what the stack stands for, each with the scope that was stacked or
a nearer one. -/
theorem visits_eq_stackedOrders (w : Walk) : w.visits = w.stackedOrders := by
  have horder (v : Visit) :
      v.node.preorder v.scope = (v.node.places []).map (Place.visitIn v.scope) :=
    Node.preorder_eq_map_places v.scope [] v.node
  rw [visits_eq_flatMap_preorder, stackedOrders]
  simp only [horder]

/-- **In every state that calls lead to, the walk still yields what its stack stands for.**  The calls
from there on yield the orders on the stack one visit after the other, and nothing behind their end;
each call that yields takes one node off those below the stack; and of all calls exactly the first ones
yield a visit, as many as the tree has nodes. -/
theorem calls_yield_stacked_orders (root : Node) (k : Nat) :
    (∀ j, ((start root).after (k + j)).call.1 = ((start root).after k).stackedOrders[j]?) ∧
      (∀ v, ((start root).after k).call.1 = some v →
        ((start root).after k).size = ((start root).after (k + 1)).size + 1) ∧
      (((start root).after k).call.1.isSome ↔ k < root.size) := by
  refine ⟨fun j => ?_, fun v hv => size_call hv, ?_⟩
  · rw [after_add, call_after, visits_eq_stackedOrders]
  · have hlength : (start root).visits.length = root.size := by
      rw [length_visits, start, size, List.map_singleton, Node.sizes, Node.sizes, Nat.add_zero]
    rw [call_after, isSome_getElem?, hlength]

/-- A declaration with an identifier in it, before another identifier. -/
example : ((start ⟨.block, none, [⟨.declaration, some "D", [⟨.identifier, some "deep", []⟩]⟩,
    ⟨.identifier, some "top", []⟩]⟩).after 2).stackedOrders =
      [⟨⟨.identifier, some "deep", []⟩,
        some ⟨.declaration, some "D", [⟨.identifier, some "deep", []⟩]⟩⟩,
      ⟨⟨.identifier, some "top", []⟩, none⟩] := by
  decide

end RouteIndex.Syntax.Walk
