/-
  Call sites: calls of the form `<receiver>.<MapVerb>(route, handler)`, recognised by their shape
  alone.

  `CallSite.ofVisit?` matches one visited node.  `Findings.gather` walks all trees in order and
  collects the call sites, with a look at the cancellation flag after each one and at every node
  whose position over all trees is a multiple of `checkInterval`.
-/

import RouteIndex.Pass
import RouteIndex.Syntax.Tree
import RouteIndex.Syntax.Walk
import RouteIndex.Verb

namespace RouteIndex

open Syntax

/-- A call that registers a route. -/
structure CallSite where
  method : String
  arguments : List Node
  /-- The nearest declaration around the call. -/
  declaration : Option Node
  deriving DecidableEq, Inhabited

namespace CallSite

/-- The methods that register a route. -/
def methods : List String :=
  ["MapGet", "MapPost", "MapPut", "MapDelete", "MapPatch"]

/-- The route and the handler. -/
def argumentCount : Nat :=
  2

/-- The call site at a visited node, if the node has the shape of one. -/
def ofVisit? (v : Visit) : Option CallSite := do
  guard (v.node.kind = .invocation)
  let callee ← v.node.childOfKind? 0 .memberAccess
  let member ← callee.childOfKind? 1 .identifier
  let method ← member.text
  guard (methods.contains method)
  let arguments ← v.node.callArguments?
  guard (arguments.length = argumentCount)
  return ⟨method, arguments, v.scope⟩

end CallSite

/-- What a scan has found. -/
structure Findings where
  callSites : List CallSite := []
  visited : Nat := 0
  deriving DecidableEq, Inhabited

namespace Findings

/-- The number of nodes between two looks at the cancellation flag. -/
def checkInterval : Nat :=
  256

/-- Adds what one node gives. -/
def addVisit (found : Findings) (v : Visit) : Pass Findings := do
  let visited := found.visited + 1
  if visited % checkInterval = 0 then Pass.check
  match CallSite.ofVisit? v with
  | some site =>
    Pass.record (.callSiteMatched site.method)
    Pass.check
    Pass.completeNode
    return ⟨found.callSites ++ [site], visited⟩
  | none =>
    Pass.completeNode
    return ⟨found.callSites, visited⟩

/-- Adds what the rest of a walk gives. -/
def addWalk (found : Findings) (walk : Walk) : Pass Findings :=
  match _h : walk.next? with
  | none => pure found
  | some (v, rest) => do
    let found ← found.addVisit v
    found.addWalk rest
termination_by walk.size
decreasing_by
  have := Walk.size_of_next? _h
  omega

/-- Adds what one tree gives. -/
def addTree (found : Findings) (tree : Tree) : Pass Findings := do
  let after ← found.addWalk (.start tree.root)
  Pass.record (.treeScanned tree.label (after.callSites.length - found.callSites.length))
  return after

/-- Adds what the trees give, in their order. -/
def addTrees (found : Findings) : List Tree → Pass Findings
  | [] => pure found
  | tree :: trees => do
    let found ← found.addTree tree
    found.addTrees trees

/-- The call sites of all trees in reading order. -/
def gather (trees : List Tree) : Pass Findings :=
  addTrees {} trees

end Findings

end RouteIndex
