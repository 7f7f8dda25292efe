/-
  What a scan does, and what it finds.

  The line of a scan follows the visits of its walks, one tree after the other: `visitTicks` are the
  ticks of one visit, and `withVisit` is what the visit adds.  Both depend only on what has been found
  so far, so **`gather_does`** gives the whole line of a scan and its result together.
-/

import RouteIndex.CallSite
import RouteIndex.Proofs.Pass
import RouteIndex.Proofs.Syntax.Walk

namespace RouteIndex.Findings

open Syntax Pass

/-! ## One visit -/

/-- What has been found after one more visit. -/
def withVisit (found : Findings) (v : Visit) : Findings :=
  ⟨found.callSites ++ (CallSite.ofVisit? v).toList, found.visited + 1⟩

/-- The ticks of one visit: perhaps the check that is due, and the checks around a call site. -/
def visitTicks (found : Findings) (v : Visit) : List Tick :=
  (if (found.visited + 1) % checkInterval = 0 then [.check] else []) ++
    match CallSite.ofVisit? v with
    | some site => [.event (.callSiteMatched site.method), .check, .node]
    | none => [.node]

/-- One visit: the check that is due at every 256th node, and at a call site its event and one more
check, in front of the node.  What the visit adds does not depend on the flag. -/
theorem addVisit_does (found : Findings) (v : Visit) :
    (found.addVisit v).Does (found.visitTicks v) (found.withVisit v) := by
  -- What follows the check at the interval, which is the same whether that check is due or not.
  have hmatch : Does
      (match CallSite.ofVisit? v with
        | some site => do
          record (.callSiteMatched site.method)
          check
          completeNode
          return (⟨found.callSites ++ [site], found.visited + 1⟩ : Findings)
        | none => do
          completeNode
          return (⟨found.callSites, found.visited + 1⟩ : Findings))
      (match CallSite.ofVisit? v with
        | some site => [.event (.callSiteMatched site.method), .check, .node]
        | none => [.node])
      (found.withVisit v) := by
    unfold withVisit
    cases CallSite.ofVisit? v with
    | some site =>
      exact (does_record _).bind (does_check.bind (does_completeNode.bind (does_pure _)))
    | none =>
      rw [Option.toList_none, List.append_nil]
      exact does_completeNode.bind (does_pure _)
  unfold addVisit visitTicks
  by_cases hdue : (found.visited + 1) % checkInterval = 0
  · simp only [if_pos hdue]
    exact does_check.bind hmatch
  · simp only [if_neg hdue]
    exact hmatch

/-- A visit is work: it announces no phase and closes none. -/
theorem isWork_visitTicks (found : Findings) (v : Visit) : IsWork (found.visitTicks v) := by
  intro e he
  unfold visitTicks at he
  rcases List.mem_append.mp he with he | he
  · split at he
    · cases List.mem_singleton.mp he
    · exact (List.not_mem_nil he).elim
  · split at he
    · simp only [List.mem_cons, List.not_mem_nil, or_false, reduceCtorEq, Tick.event.injEq] at he
      rw [he]
      rfl
    · cases List.mem_singleton.mp he

/-! ## One walk -/

/-- What has been found after some more visits. -/
def withVisits (found : Findings) (vs : List Visit) : Findings :=
  vs.foldl withVisit found

/-- The ticks of some visits. -/
def visitsTicks : Findings → List Visit → List Tick
  | _, [] => []
  | found, v :: vs => found.visitTicks v ++ (found.withVisit v).visitsTicks vs

/-- A walk that is over adds nothing. -/
theorem addWalk_of_end {walk : Walk} (h : walk.next? = none) (found : Findings) :
    found.addWalk walk = pure found := by
  rw [addWalk]
  split
  · rfl
  · rename_i hnext
    rw [h] at hnext
    cases hnext

/-- A walk that is not over adds its next visit and goes on with the rest. -/
theorem addWalk_of_next {walk rest : Walk} {v : Visit} (h : walk.next? = some (v, rest))
    (found : Findings) :
    found.addWalk walk = (do
      let found ← found.addVisit v
      found.addWalk rest) := by
  rw [addWalk]
  split
  · rename_i hnext
    rw [h] at hnext
    cases hnext
  · rename_i hnext
    rw [h] at hnext
    obtain ⟨rfl, rfl⟩ := Prod.mk.inj (Option.some.inj hnext)
    rfl

/-- A walk is done visit by visit.  The induction follows the walk, whose size falls with each step,
and the findings change along it. -/
theorem addWalk_does (found : Findings) (walk : Walk) :
    (found.addWalk walk).Does (found.visitsTicks walk.visits) (found.withVisits walk.visits) := by
  -- along the walk, which gets smaller by the node that is visited
  induction found, walk using addWalk.induct with
  | case1 found walk hend =>
    rw [Walk.visits_of_end hend, addWalk_of_end hend]
    exact does_pure found
  | case2 found walk v rest hnext ih =>
    rw [Walk.visits_of_next hnext, addWalk_of_next hnext]
    exact (addVisit_does found v).bind (ih _)

/-- Whatever has been found before, the ticks of some visits are work. -/
theorem isWork_visitsTicks (vs : List Visit) : ∀ (found : Findings),
    IsWork (found.visitsTicks vs) := by
  induction vs with
  | nil => exact fun _ => isWork_nil
  | cons v vs ih => exact fun found => (isWork_visitTicks found v).append (ih _)

/-! ## All trees -/

/-- What has been found after one more tree. -/
def withTree (found : Findings) (tree : Tree) : Findings :=
  found.withVisits (Walk.start tree.root).visits

/-- The ticks of one tree. -/
def treeTicks (found : Findings) (tree : Tree) : List Tick :=
  found.visitsTicks (Walk.start tree.root).visits ++
    [.event (.treeScanned tree.label
      ((found.withTree tree).callSites.length - found.callSites.length))]

/-- The ticks of some trees. -/
def treesTicks : Findings → List Tree → List Tick
  | _, [] => []
  | found, tree :: trees => found.treeTicks tree ++ (found.withTree tree).treesTicks trees

/-- A tree is its walk from the root, and the event that tells how many call sites it has. -/
theorem addTree_does (found : Findings) (tree : Tree) :
    (found.addTree tree).Does (found.treeTicks tree) (found.withTree tree) :=
  (addWalk_does found (Walk.start tree.root)).bind ((does_record _).bind (does_pure _))

/-- The trees of a scan, one after the other, each starting from what the ones before it have
given. -/
theorem addTrees_does (trees : List Tree) : ∀ (found : Findings),
    (found.addTrees trees).Does (found.treesTicks trees) (trees.foldl withTree found) := by
  induction trees with
  | nil => exact fun found => does_pure found
  | cons tree trees ih => exact fun found => (addTree_does found tree).bind (ih _)

/-- **A scan finds what its trees add, one visit after the other**, and does nothing but the ticks
of the visits and one event for each tree.  What follows about scans is told from this line. -/
theorem gather_does (trees : List Tree) :
    (gather trees).Does (treesTicks {} trees) (trees.foldl withTree {}) :=
  addTrees_does trees {}

/-- All of a scan is work, so that its checks are inside the phase that it is done in. -/
theorem isWork_treesTicks (trees : List Tree) : ∀ (found : Findings),
    IsWork (found.treesTicks trees) := by
  induction trees with
  | nil => exact fun _ => isWork_nil
  | cons tree trees ih =>
    intro found
    exact ((isWork_visitsTicks _ found).append (isWork_event rfl)).append (ih _)

end RouteIndex.Findings
