/-
  What a scan finds: the registrations in all trees, in reading order.

  1. **Shape** — `IsRegistration` writes the shape of a registration down as one pattern, with the
     five methods by name.  A visit gives a call site exactly if its node has this shape
     (`CallSite.ofVisit?_eq_some_iff`): the match takes the pattern apart step by step
     (`CallSite.ofVisit?_eq_some_iff_steps`), and each step is undone once.
  2. **Scan** — the findings of a scan are a fold over the visits of its walks
     (`Findings.gather_does`).  A visit adds at most one call site and counts one node, so the fold
     picks the call sites out of the list of visits (`Findings.withVisits_eq`).
  3. **Order** — the visits are the places in the trees, each under its nearest declaration
     (`Walk.visits_start`, `Node.preorder_eq_map_places`).  So `gather_finds_registrations` follows
     by an induction over the trees.
-/

import Mathlib.Algebra.GroupWithZero.Nat
import Mathlib.Data.List.Basic
import Mathlib.Data.Option.Basic
import RouteIndex.Proofs.Findings
import RouteIndex.Proofs.Syntax.Walk
import RouteIndex.Syntax.Build

namespace RouteIndex

open Syntax

/-! ## The shape of a registration -/

/-- A call of the form `<receiver>.<method>(route, handler)`.  There are exactly two arguments;
whatever else stands in the list of arguments does not count. -/
inductive IsRegistration : Node → String → Node → Node → Prop where
  | call {text calleeText listText : Option String} {receiver : Node} {method : String}
      {below others items rest : List Node} {route handler : Node}
      (hmethod : method ∈ ["MapGet", "MapPost", "MapPut", "MapDelete", "MapPatch"])
      (hitems : items.filter (·.kind = .argument) = [route, handler]) :
      IsRegistration
        ⟨.invocation, text,
          ⟨.memberAccess, calleeText, receiver :: ⟨.identifier, some method, below⟩ :: others⟩ ::
          ⟨.argumentList, listText, items⟩ :: rest⟩
        method route handler

/-- A child of a kind at a position is the child there, if it has the kind. -/
theorem Syntax.Node.childOfKind?_eq_some_iff {n child : Node} {i : Nat} {k : Kind} :
    n.childOfKind? i k = some child ↔ n.children[i]? = some child ∧ child.kind = k := by
  rw [childOfKind?, child?, Option.filter_eq_some_iff, decide_eq_true_eq]

/-- What an argument passes on, told without the function that reads it. -/
theorem Syntax.Node.expression_eq_headD (n : Node) : n.expression = n.children.headD n := by
  obtain ⟨kind, text, children⟩ := n
  cases children with
  | nil => rfl
  | cons child children => rfl

/-- The expressions of two arguments. -/
theorem Syntax.Node.expressions_of_filter {list route handler : Node}
    (h : list.children.filter (·.kind = .argument) = [route, handler]) :
    list.expressions = [route.children.headD route, handler.children.headD handler] := by
  rw [expressions, childrenOfKind, h, List.map_cons, List.map_cons, List.map_nil,
    expression_eq_headD, expression_eq_headD]

/-- The arguments of a call, where there are any: they stand in the list at its second place. -/
theorem Syntax.Node.callArguments?_eq_some_iff {n : Node} {arguments : List Node} :
    n.callArguments? = some arguments ↔ n.kind = .invocation ∧
      ∃ list, n.childOfKind? 1 .argumentList = some list ∧ list.expressions = arguments := by
  unfold callArguments?
  by_cases hkind : n.kind = .invocation
  · rw [if_pos hkind, Option.map_eq_some_iff]
    exact ⟨And.intro hkind, And.right⟩
  · rw [if_neg hkind]
    exact ⟨nofun, fun h => absurd h.1 hkind⟩

/-- A list with something at its second position. -/
theorem eq_cons_cons_of_getElem?_one {α : Type} {xs : List α} {b : α} (h : xs[1]? = some b) :
    ∃ a rest, xs = a :: b :: rest := by
  match xs, h with
  | a :: c :: rest, h => exact ⟨a, rest, by rw [Option.some.inj h]⟩

namespace CallSite

/-- The steps of the match, in the order in which the code makes them.  None of them looks at the
scope, which is only handed on. -/
theorem ofVisit?_eq_some_iff_steps {v : Visit} {site : CallSite} :
    ofVisit? v = some site ↔ v.node.kind = .invocation ∧
      ∃ callee member, v.node.childOfKind? 0 .memberAccess = some callee ∧
        callee.childOfKind? 1 .identifier = some member ∧ member.text = some site.method ∧
        site.method ∈ methods ∧ v.node.callArguments? = some site.arguments ∧
        site.arguments.length = argumentCount ∧ site.declaration = v.scope := by
  simp only [ofVisit?, Option.bind_eq_bind, Option.bind_eq_some_iff, Option.guard_eq_some',
    List.contains_iff_mem]
  constructor
  · rintro ⟨-, hkind, callee, hcallee, member, hmember, method, htext, -, hmethod, arguments,
      harguments, -, hcount, hsite⟩
    obtain rfl := Option.some.inj hsite
    exact ⟨hkind, callee, member, hcallee, hmember, htext, hmethod, harguments, hcount, rfl⟩
  · rintro ⟨hkind, callee, member, hcallee, hmember, htext, hmethod, harguments, hcount, hscope⟩
    rw [← hscope]
    exact ⟨(), hkind, callee, hcallee, member, hmember, site.method, htext, (), hmethod,
      site.arguments, harguments, (), hcount, rfl⟩

/-- A node that gives a call site is a registration.  Each step has looked at a child; together they
are the pattern. -/
theorem isRegistration_of_ofVisit? {v : Visit} {site : CallSite} (h : ofVisit? v = some site) :
    ∃ route handler, IsRegistration v.node site.method route handler ∧
      site.arguments = [route.children.headD route, handler.children.headD handler] ∧
      site.declaration = v.scope := by
  obtain ⟨⟨kind, text, children⟩, scope⟩ := v
  obtain ⟨method, arguments, declaration⟩ := site
  obtain ⟨rfl, ⟨_, calleeText, inner⟩, ⟨_, memberText, below⟩, hcallee, hmember, rfl, hmethod,
    harguments, hcount, hscope⟩ := ofVisit?_eq_some_iff_steps.mp h
  obtain ⟨-, ⟨_, listText, items⟩, hlist, rfl⟩ := Node.callArguments?_eq_some_iff.mp harguments
  -- the children of the call and of its callee, as far as the match has looked at them
  obtain ⟨hfirst, rfl⟩ := Node.childOfKind?_eq_some_iff.mp hcallee
  obtain ⟨hsecond, rfl⟩ := Node.childOfKind?_eq_some_iff.mp hlist
  obtain ⟨hname, rfl⟩ := Node.childOfKind?_eq_some_iff.mp hmember
  obtain ⟨callee, rest, rfl⟩ := eq_cons_cons_of_getElem?_one hsecond
  obtain ⟨receiver, others, rfl⟩ := eq_cons_cons_of_getElem?_one hname
  obtain rfl := Option.some.inj hfirst
  rw [Node.expressions, List.length_map] at hcount
  obtain ⟨route, handler, hitems⟩ := List.length_eq_two.mp hcount
  exact ⟨route, handler, .call hmethod hitems, Node.expressions_of_filter hitems, hscope⟩

/-- A registration gives a call site, by the same steps the other way round. -/
theorem ofVisit?_of_isRegistration {n route handler : Node} {method : String}
    (h : IsRegistration n method route handler) (scope : Option Node) :
    ofVisit? ⟨n, scope⟩ =
      some ⟨method, [route.children.headD route, handler.children.headD handler], scope⟩ := by
  cases h with
  | call hmethod hitems =>
    refine ofVisit?_eq_some_iff_steps.mpr ⟨rfl, _, _, rfl, rfl, rfl, hmethod, ?_, rfl, rfl⟩
    exact Node.callArguments?_eq_some_iff.mpr ⟨rfl, _, rfl, Node.expressions_of_filter hitems⟩

/-- **The nodes that give call sites are the registrations.** -/
theorem ofVisit?_eq_some_iff {v : Visit} {site : CallSite} :
    ofVisit? v = some site ↔
      ∃ route handler, IsRegistration v.node site.method route handler ∧
        site.arguments = [route.children.headD route, handler.children.headD handler] ∧
        site.declaration = v.scope := by
  constructor
  · exact isRegistration_of_ofVisit?
  · obtain ⟨method, arguments, declaration⟩ := site
    rintro ⟨route, handler, h, rfl, rfl⟩
    exact ofVisit?_of_isRegistration h v.scope

/-- The call site at a place, if a registration stands there. -/
def ofPlace? (p : Place) : Option CallSite :=
  ofVisit? (p.visitIn none)

/-- The same for a place, whose scope is the nearest declaration strictly above it. -/
theorem ofPlace?_eq_some_iff {p : Place} {site : CallSite} :
    ofPlace? p = some site ↔
      ∃ route handler, IsRegistration p.node site.method route handler ∧
        site.arguments = [route.children.headD route, handler.children.headD handler] ∧
        site.declaration = p.above.find? (·.kind = .declaration) := by
  rw [ofPlace?, ofVisit?_eq_some_iff, Place.visitIn, Option.or_none]
  rfl

end CallSite

/-! ## The findings of a scan -/

namespace Findings

/-- What some visits add: their call sites in order, and their number.  By induction over the
visits, with the findings left open. -/
theorem withVisits_eq (vs : List Visit) : ∀ found : Findings,
    found.withVisits vs =
      ⟨found.callSites ++ vs.filterMap CallSite.ofVisit?, found.visited + vs.length⟩ := by
  induction vs with
  | nil =>
    intro found
    rw [List.filterMap_nil, List.append_nil]
    rfl
  | cons v vs ih =>
    intro found
    have hsites : (v :: vs).filterMap CallSite.ofVisit? =
        (CallSite.ofVisit? v).toList ++ vs.filterMap CallSite.ofVisit? := by
      rw [List.filterMap_cons]
      cases CallSite.ofVisit? v with
      | none => rfl
      | some site => rfl
    -- The node that is visited counts whether it matched or not.
    have hcount : found.visited + 1 + vs.length = found.visited + (v :: vs).length := by
      rw [List.length_cons]
      omega
    show (found.withVisit v).withVisits vs = _
    rw [ih, hsites, ← List.append_assoc, ← hcount]
    rfl

/-- What one tree adds: the registrations at its places, and the number of its nodes. -/
theorem withTree_eq (found : Findings) (tree : Tree) :
    found.withTree tree =
      ⟨found.callSites ++ (tree.root.places []).filterMap CallSite.ofPlace?,
        found.visited + tree.root.size⟩ := by
  rw [withTree, Walk.visits_start_eq_map_places, withVisits_eq, List.filterMap_map, List.length_map, Node.length_places]
  rfl

/-- What all trees add, by induction over the trees. -/
theorem foldl_withTree_eq (trees : List Tree) : ∀ found : Findings,
    trees.foldl withTree found =
      ⟨found.callSites ++ (trees.flatMap fun t => t.root.places []).filterMap CallSite.ofPlace?,
        found.visited + (trees.map fun t => t.root.size).sum⟩ := by
  induction trees with
  | nil =>
    intro found
    rw [List.flatMap_nil, List.filterMap_nil, List.append_nil]
    rfl
  | cons tree trees ih =>
    intro found
    rw [List.foldl_cons, ih, withTree_eq, List.flatMap_cons, List.filterMap_append, List.map_cons,
      List.sum_cons, List.append_assoc, Nat.add_assoc]

/-- **A scan finds the registrations in all trees, in reading order.**  It walks with a stack and a
scope, and gives what the recursion over the trees gives: it counts every node once, and its call
sites are those of the places where a registration stands, each with the method, with what the two
arguments pass on, and with the nearest declaration strictly above it. -/
theorem gather_finds_registrations (trees : List Tree) (w : Watch) (hw : w.IsQuiet) :
    ∃ found w', (gather trees).run w = (.ok found, w') ∧
      found.visited = (trees.map fun t => t.root.size).sum ∧
      found.callSites = (trees.flatMap fun t => t.root.places []).filterMap CallSite.ofPlace? ∧
      ∀ (p : Place) (site : CallSite), CallSite.ofPlace? p = some site ↔
        ∃ route handler, IsRegistration p.node site.method route handler ∧
          site.arguments = [route.children.headD route, handler.children.headD handler] ∧
          site.declaration = p.above.find? (·.kind = .declaration) := by
  refine ⟨_, _, (gather_does trees).run_of_live (hw.live_after _), ?_, ?_,
    fun p site => CallSite.ofPlace?_eq_some_iff⟩
  · rw [foldl_withTree_eq]
    exact Nat.zero_add _
  · rw [foldl_withTree_eq]
    exact List.nil_append _

/-- Registrations in the receiver and in an argument of another one, all inside a declaration. -/
def nestedRegistrations : Node :=
  let receiver := Build.mapCall "MapPut" (Build.stringLiteral "/a") (Build.lambda [])
  let inner := Build.mapCall "MapGet" (Build.identifier "route") (Build.identifier "h")
  Build.declaration "Configure" []
    [Build.invocation (Build.memberAccess receiver "MapDelete")
      [Build.stringLiteral "/b", Build.lambda [inner]]]

theorem gather_finds_registrations_nested :
    Watch.live.IsQuiet ∧ ∃ found w',
      (gather [⟨1, none, nestedRegistrations⟩]).run Watch.live = (.ok found, w') ∧
      found.visited = 28 ∧
      found.callSites.map (·.method) = ["MapDelete", "MapPut", "MapGet"] ∧
      found.callSites.map (·.declaration) = List.replicate 3 (some nestedRegistrations) := by
  have hquiet : Watch.live.IsQuiet := ⟨rfl, fun _ => rfl⟩
  obtain ⟨found, w', hrun, hvisited, hsites, -⟩ :=
    gather_finds_registrations [⟨1, none, nestedRegistrations⟩] Watch.live hquiet
  refine ⟨hquiet, found, w', hrun, hvisited.trans (by decide), ?_, ?_⟩
  · rw [hsites]
    decide
  · rw [hsites]
    decide

end Findings

end RouteIndex
