/-
  Trees that are alike: they differ only in texts that nobody reads.

  A pass reads the text of a literal and of an attribute, wherever it stands, and the name of a member
  that is called.  Everything else it knows of a tree is the shape and the kinds of the nodes.

  1. **Nodes** — `Node.Alike` says this of two trees, level by level; it can be decided.  What is read
     off a node by kind and position is alike for nodes that are alike: children
     (`Alike.childOfKind?`), arguments (`Alike.callArguments?`), and the name that is called is the
     same.
  2. **Walks** — so the visits of walks over the two trees are alike one by one
     (`Node.alike_preorder`), each with its scope, and there are as many of them.
  3. **Texts** — texts of the other kinds may be rewritten at will (`Node.alike_rewrite`).
-/

import Mathlib.Data.List.Forall2
import RouteIndex.Proofs.Syntax.Walk
import RouteIndex.Syntax.Tree

namespace RouteIndex

/-! ## Places in a list -/

/-- Lists that are related have related entries at each place, and end at the same place. -/
theorem rel_getElem? {α β : Type} {R : α → β → Prop} {xs : List α} {ys : List β}
    (h : List.Forall₂ R xs ys) (i : Nat) : Option.Rel R xs[i]? ys[i]? := by
  induction h generalizing i with
  | nil => exact .none
  | cons hab _ ih =>
    cases i with
    | zero => exact .some hab
    | succ i => exact ih i

/-- What is related still is, once both sides have been looked up and read on.  A look-up may fail,
but then it fails on both sides. -/
theorem rel_bind {α β γ δ : Type} {R : α → β → Prop} {S : γ → δ → Prop} {x : Option α} {y : Option β}
    {f : α → Option γ} {g : β → Option δ} (h : Option.Rel R x y)
    (hfg : ∀ a b, R a b → Option.Rel S (f a) (g b)) : Option.Rel S (x.bind f) (y.bind g) := by
  cases h with
  | some hab => exact hfg _ _ hab
  | none => exact .none

namespace Syntax

/-! ## Nodes -/

/-- The kinds whose text is read wherever a node of the kind stands. -/
def Kind.isRead : Kind → Bool
  | .stringLiteral | .numericLiteral | .attribute => true
  | _ => false

namespace Node

/-- The identifier at the second place of the member access that a call begins with. -/
def calledMember? (n : Node) : Option Node :=
  if n.kind = .invocation then
    (n.childOfKind? 0 .memberAccess).bind (·.childOfKind? 1 .identifier)
  else none

/-- The text of the name that is called. -/
def calledName? (n : Node) : Option String :=
  n.calledMember?.bind (·.text)

mutual

/-- Nodes of the same shape and the same kinds, whose texts are the same wherever one is read. -/
def Alike : Node → Node → Prop
  | ⟨kind, text, children⟩, ⟨kind', text', children'⟩ =>
    kind = kind' ∧ (kind.isRead = true → text = text') ∧
      calledName? ⟨kind, text, children⟩ = calledName? ⟨kind', text', children'⟩ ∧
      AllAlike children children'

/-- As many nodes on both sides, alike one by one. -/
def AllAlike : List Node → List Node → Prop
  | [], [] => True
  | n :: ns, m :: ms => n.Alike m ∧ AllAlike ns ms
  | _, _ => False

end

mutual

/-- Whether two nodes are alike. -/
def decAlike : (n m : Node) → Decidable (n.Alike m)
  | ⟨kind, text, children⟩, ⟨kind', text', children'⟩ =>
    have := decAllAlike children children'
    inferInstanceAs (Decidable (kind = kind' ∧ (kind.isRead = true → text = text') ∧
      calledName? ⟨kind, text, children⟩ = calledName? ⟨kind', text', children'⟩ ∧
      AllAlike children children'))

/-- Whether two lists of nodes are alike. -/
def decAllAlike : (ns ms : List Node) → Decidable (AllAlike ns ms)
  | [], [] => isTrue trivial
  | n :: ns, m :: ms =>
    have := decAlike n m
    have := decAllAlike ns ms
    inferInstanceAs (Decidable (n.Alike m ∧ AllAlike ns ms))
  | [], _ :: _ => isFalse id
  | _ :: _, [] => isFalse id

end

instance : DecidableRel Alike :=
  decAlike

/-- The lists of children are related one by one, so that the lemmas about related lists can be
used.  The definition has a list of its own only because it recurs through the nodes. -/
theorem allAlike_iff {ns ms : List Node} : AllAlike ns ms ↔ List.Forall₂ Alike ns ms := by
  induction ns generalizing ms with
  | nil =>
    cases ms with
    | nil => exact ⟨fun _ => .nil, fun _ => trivial⟩
    | cons m ms => exact ⟨False.elim, nofun⟩
  | cons n ns ih =>
    cases ms with
    | nil => exact ⟨False.elim, nofun⟩
    | cons m ms => rw [AllAlike, ih, List.forall₂_cons]

variable {n m : Node}

/-- What it means for two nodes to be alike, told in their fields and not in their constructors.
The four parts of it have names below. -/
theorem alike_iff : n.Alike m ↔ n.kind = m.kind ∧ (n.kind.isRead = true → n.text = m.text) ∧
    n.calledName? = m.calledName? ∧ List.Forall₂ Alike n.children m.children := by
  obtain ⟨kind, text, children⟩ := n
  obtain ⟨kind', text', children'⟩ := m
  rw [Alike, allAlike_iff]

theorem Alike.kind_eq (h : n.Alike m) : n.kind = m.kind :=
  (alike_iff.mp h).1

theorem Alike.text_eq (h : n.Alike m) (hread : n.kind.isRead = true) : n.text = m.text :=
  (alike_iff.mp h).2.1 hread

theorem Alike.calledName?_eq (h : n.Alike m) : n.calledName? = m.calledName? :=
  (alike_iff.mp h).2.2.1

theorem Alike.children (h : n.Alike m) : List.Forall₂ Alike n.children m.children :=
  (alike_iff.mp h).2.2.2

/-! ## What is read off a node -/

/-- Children at the same position are alike, or missing on both sides. -/
theorem Alike.child? (h : n.Alike m) (i : Nat) : Option.Rel Alike (n.child? i) (m.child? i) :=
  rel_getElem? h.children i

/-- Nodes that are alike have the same kind, so a test of the kind keeps both or drops both. -/
theorem rel_filter_kind {x y : Option Node} (h : Option.Rel Alike x y) (k : Kind) :
    Option.Rel Alike (x.filter (·.kind = k)) (y.filter (·.kind = k)) := by
  cases h with
  | none => exact .none
  | @some a b hab =>
    show Option.Rel Alike (if decide (a.kind = k) then some a else none)
      (if decide (b.kind = k) then some b else none)
    rw [hab.kind_eq]
    split
    · exact .some hab
    · exact .none

/-- The child at a position, if it has the kind that is looked for: this is how the shape of a call
is read. -/
theorem Alike.childOfKind? (h : n.Alike m) (i : Nat) (k : Kind) :
    Option.Rel Alike (n.childOfKind? i k) (m.childOfKind? i k) :=
  rel_filter_kind (h.child? i) k

/-- The children of a kind are alike one by one; those of other kinds are dropped at the same
places. -/
theorem Alike.childrenOfKind (h : n.Alike m) (k : Kind) :
    List.Forall₂ Alike (n.childrenOfKind k) (m.childrenOfKind k) := by
  refine List.rel_filter (fun a b hab => ?_) h.children
  show decide (a.kind = k) = true ↔ decide (b.kind = k) = true
  rw [hab.kind_eq]

/-- What an argument passes on is its first child; an argument that passes nothing on stands for
itself. -/
theorem Alike.expression (h : n.Alike m) : n.expression.Alike m.expression := by
  have hfirst := h.child? 0
  unfold Node.expression
  generalize n.child? 0 = x at hfirst ⊢
  generalize m.child? 0 = y at hfirst ⊢
  cases hfirst with
  | some hab => exact hab
  | none => exact h

theorem Alike.expressions (h : n.Alike m) : List.Forall₂ Alike n.expressions m.expressions :=
  List.rel_map (fun _ _ hab => hab.expression) (h.childrenOfKind .argument)

/-- The arguments of a call, if the node is a call that has a list of them. -/
theorem Alike.callArguments? (h : n.Alike m) :
    Option.Rel (List.Forall₂ Alike) n.callArguments? m.callArguments? := by
  unfold Node.callArguments?
  rw [h.kind_eq]
  split
  · rw [Option.map_eq_bind, Option.map_eq_bind]
    exact rel_bind (h.childOfKind? 1 .argumentList) fun _ _ hab => .some hab.expressions
  · exact .none

/-- The arguments of an attribute, which has none if it has no list of arguments. -/
theorem Alike.attributeArguments (h : n.Alike m) :
    List.Forall₂ Alike n.attributeArguments m.attributeArguments := by
  have hlists := h.childrenOfKind .argumentList
  unfold Node.attributeArguments
  generalize n.childrenOfKind .argumentList = ns at hlists ⊢
  generalize m.childrenOfKind .argumentList = ms at hlists ⊢
  cases hlists with
  | nil => exact .nil
  | cons hab _ => exact hab.expressions

end Node

/-! ## Walks -/

/-- Visits of nodes that are alike, in scopes that are alike. -/
structure Visit.Alike (v u : Visit) : Prop where
  node : v.node.Alike u.node
  scope : Option.Rel Node.Alike v.scope u.scope

namespace Node

/-- The scope inside a node is the node itself if it is a declaration, and else the scope around it.
Both are alike on both sides. -/
theorem Alike.innerScope {n m : Node} {scope scope' : Option Node} (h : n.Alike m)
    (hscope : Option.Rel Alike scope scope') :
    Option.Rel Alike (n.innerScope scope) (m.innerScope scope') := by
  unfold Node.innerScope
  rw [h.kind_eq]
  split
  · exact .some h
  · exact hscope

mutual

/-- **The visits of trees that are alike are alike**, one by one.  The induction is on the left
tree; the right one has the same shape, so it follows.  The scopes change on the way down. -/
theorem alike_preorder : ∀ (n m : Node) {scope scope' : Option Node}, n.Alike m →
    Option.Rel Alike scope scope' →
    List.Forall₂ Visit.Alike (n.preorder scope) (m.preorder scope')
  | ⟨kind, text, children⟩, m, _, _, h, hscope => by
    rw [preorder_eq_cons, preorder_eq_cons]
    exact .cons ⟨h, hscope⟩ (alike_preorders children m.children h.children (h.innerScope hscope))

theorem alike_preorders : ∀ (ns ms : List Node) {scope scope' : Option Node},
    List.Forall₂ Alike ns ms → Option.Rel Alike scope scope' →
    List.Forall₂ Visit.Alike (preorders scope ns) (preorders scope' ms)
  | [], [], _, _, .nil, _ => .nil
  | n :: ns, m :: ms, _, _, .cons h hs, hscope => by
    rw [preorders, preorders]
    exact List.rel_append (alike_preorder n m h hscope) (alike_preorders ns ms hs hscope)

end

end Node

/-! ## Texts that are not read -/

/-- The kinds whose text is never read, wherever a node of the kind stands. -/
def Kind.isFree (k : Kind) : Bool :=
  !k.isRead && k ≠ .identifier

namespace Node

mutual

/-- The tree with other texts where no text is ever read. -/
def rewrite (f : Option String → Option String) : Node → Node
  | ⟨kind, text, children⟩ =>
    ⟨kind, if kind.isFree then f text else text, rewriteAll f children⟩

/-- The trees with other texts where no text is ever read. -/
def rewriteAll (f : Option String → Option String) : List Node → List Node
  | [] => []
  | n :: ns => n.rewrite f :: rewriteAll f ns

end

variable (f : Option String → Option String)

/-- Rewriting children is rewriting each of them. -/
theorem rewriteAll_eq_map (ns : List Node) : rewriteAll f ns = ns.map (rewrite f) := by
  induction ns with
  | nil => rfl
  | cons n ns ih => rw [rewriteAll, ih, List.map_cons]

theorem kind_rewrite (n : Node) : (n.rewrite f).kind = n.kind := by
  obtain ⟨kind, text, children⟩ := n
  rw [rewrite]

/-- The text of a kind that may be read is kept. -/
theorem text_rewrite {n : Node} (h : n.kind.isFree = false) : (n.rewrite f).text = n.text := by
  obtain ⟨kind, text, children⟩ := n
  have hkept : ¬ kind.isFree = true := Bool.eq_false_iff.mp h
  rw [rewrite, if_neg hkept]

/-- Looking for a child and rewriting can be done in either order, for kinds and positions are
kept. -/
theorem childOfKind?_rewrite (n : Node) (i : Nat) (k : Kind) :
    (n.rewrite f).childOfKind? i k = (n.childOfKind? i k).map (rewrite f) := by
  obtain ⟨kind, text, children⟩ := n
  have hkinds : (fun c : Node => decide (c.kind = k)) ∘ rewrite f = fun c => decide (c.kind = k) :=
    funext fun c => by rw [Function.comp_apply, kind_rewrite]
  rw [childOfKind?, child?, rewrite, rewriteAll_eq_map, List.getElem?_map, Option.filter_map, hkinds]
  rfl

/-- The name that is called is kept.  It stands in an identifier, and identifiers may have names
that are read; therefore their texts are kept everywhere. -/
theorem calledName?_rewrite (n : Node) : (n.rewrite f).calledName? = n.calledName? := by
  have hmember : (n.rewrite f).calledMember? = n.calledMember?.map (rewrite f) := by
    unfold calledMember?
    rw [kind_rewrite, childOfKind?_rewrite]
    split
    · cases n.childOfKind? 0 .memberAccess with
      | none => rfl
      | some callee => exact callee.childOfKind?_rewrite f 1 .identifier
    · rfl
  unfold calledName?
  rw [hmember]
  cases hcalled : n.calledMember? with
  | none => rfl
  | some member =>
    -- What is called is an identifier, and the text of an identifier is not rewritten.
    have hkind : member.kind = .identifier := by
      unfold calledMember? at hcalled
      split at hcalled
      · obtain ⟨callee, -, hmember⟩ := Option.bind_eq_some_iff.mp hcalled
        exact of_decide_eq_true (Option.filter_eq_some_iff.mp hmember).2
      · nomatch hcalled
    exact text_rewrite f (by rw [hkind]; rfl)

mutual

/-- **Where no text is ever read, any other text will do.** By induction on the tree: its own text
is kept or is never read, and the called name is kept. -/
theorem alike_rewrite : ∀ n : Node, n.Alike (n.rewrite f)
  | ⟨kind, text, children⟩ => by
    refine alike_iff.mpr ⟨(kind_rewrite f _).symm, fun hread => (text_rewrite f ?_).symm,
      (calledName?_rewrite f _).symm, ?_⟩
    · show (!kind.isRead && kind ≠ .identifier) = false
      rw [show kind.isRead = true from hread]
      rfl
    · rw [rewrite]
      exact alike_rewriteAll children

theorem alike_rewriteAll : ∀ ns : List Node, List.Forall₂ Alike ns (rewriteAll f ns)
  | [] => .nil
  | n :: ns => .cons (alike_rewrite n) (alike_rewriteAll ns)

end

end Node

/-- A tree that stands elsewhere, with other texts where no text is ever read. -/
def Tree.moved (path : Option String) (f : Option String → Option String) (t : Tree) : Tree :=
  { t with path, root := t.root.rewrite f }

end Syntax

end RouteIndex
