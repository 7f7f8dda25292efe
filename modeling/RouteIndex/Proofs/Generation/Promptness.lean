/-
  Cancellation is noticed within an interval of nodes, and for good.

  A scan looks at the flag at every registration, and at every node whose position over all trees is
  a multiple of `checkInterval`.

  1. **Lines** — `IsScan k vs ts` says how the ticks `ts` of a scan belong to the visits `vs` that are
     still to come when `k` nodes have been completed.  Each visit has its ticks, which end with the
     node and hold a check exactly if the scan looks at the flag there (`isScan_treesTicks`).
  2. **Moments** — between two nodes the line falls apart into what is done and what is still to come
     (`IsScan.split`), and the first check of the rest is inside the first visit at which the scan looks
     at the flag (`IsScan.first_check`).  One of any 256 positions is a multiple of 256.
  3. **Passes** — a pass that was cancelled before it has begun fails in its scan, unless the scan
     never looks at the flag (`isCutShort_of_cancelled`).
  4. **Tokens** — a token is cancelled through any handle of its flag, and stays so
     (`Tokens.Shares.isCancelled`).
-/

import Mathlib.Data.List.Induction
import Mathlib.Order.Bounds.Basic
import RouteIndex.Proofs.Generation.Joining
import RouteIndex.Proofs.Token

namespace RouteIndex

open Syntax

/-! ## Between nodes -/

/-- Whether a tick leaves no node under way: it completes a node, or a tree. -/
def Tick.settles : Tick → Bool
  | .node | .event (.treeScanned ..) => true
  | _ => false

/-- No node is under way behind the ticks. -/
def Settled (ts : List Tick) : Prop :=
  ∀ t ∈ ts.getLast?, t.settles = true

theorem settled_nil : Settled [] :=
  fun _ h => nomatch h

/-- A moment with no node under way can be seen from the ticks right in front of it. -/
theorem Settled.of_append (ts : List Tick) {us : List Tick} (h : Settled (ts ++ us)) :
    Settled us := by
  intro t ht
  refine h t ?_
  rw [List.getLast?_append, ht]
  rfl

/-- Two parts that leave no node under way leave none in a row. -/
theorem Settled.append {ts us : List Tick} (hts : Settled ts) (hus : Settled us) :
    Settled (ts ++ us) := by
  intro t ht
  rw [List.getLast?_append] at ht
  cases hlast : us.getLast? with
  | none =>
    rw [hlast] at ht
    exact hts t ht
  | some u =>
    rw [hlast] at ht
    exact hus t (hlast.trans ht)

/-- Behind a tick that completes something, no node is under way. -/
theorem settled_concat (ts : List Tick) {t : Tick} (h : t.settles = true) : Settled (ts ++ [t]) := by
  intro u hu
  rw [List.getLast?_concat] at hu
  exact Option.some.inj hu ▸ h

/-- Among the ticks of a node under way, nothing is settled but the moment in front of them. -/
theorem Settled.eq_nil {ts : List Tick} (h : Settled ts) (hts : ∀ t ∈ ts, t.settles = false) :
    ts = [] := by
  rw [← List.getLast?_eq_none_iff, Option.eq_none_iff_forall_ne_some]
  intro t ht
  have hsettles := h t ht
  rw [hts t (List.mem_of_getLast? ht)] at hsettles
  exact Bool.false_ne_true hsettles

/-- A node under way has not been counted yet. -/
theorem count_node_eq_zero {ts : List Tick} (h : ∀ t ∈ ts, t.settles = false) :
    ts.count .node = 0 := by
  rw [List.count_eq_zero]
  intro hmem
  exact Bool.false_ne_true (h _ hmem).symm

/-- A moment with no node under way is in front of the ticks of a node, or behind them.  This is the
step by which the line is taken apart, node after node. -/
theorem Settled.before_or_behind {body ts before after : List Tick} (h : Settled before)
    (hbody : ∀ t ∈ body, t.settles = false) (hts : body ++ .node :: ts = before ++ after) :
    before = [] ∨ ∃ late, before = body ++ .node :: late ∧ ts = late ++ after ∧ Settled late := by
  have hline : (body ++ [.node]) ++ ts = before ++ after := by
    rw [← hts, List.append_assoc, List.singleton_append]
  rcases List.append_eq_append_iff.mp hline with ⟨late, hbefore, hlate⟩ | ⟨early, hnode, hafter⟩
  · rw [hbefore] at h
    refine Or.inr ⟨late, ?_, hlate, h.of_append _⟩
    rw [hbefore, List.append_assoc, List.singleton_append]
  · cases early using List.reverseRecOn with
    | nil =>
      rw [List.append_nil] at hnode
      exact Or.inr ⟨[], hnode.symm, hafter.symm, settled_nil⟩
    | append_singleton early t =>
      -- the node is not completed, so it has not been begun
      rw [← List.append_assoc] at hnode
      obtain ⟨hparts, -⟩ := List.append_inj' hnode rfl
      refine Or.inl (h.eq_nil fun t ht => hbody t ?_)
      rw [hparts]
      exact List.mem_append_left _ ht

namespace Findings

/-! ## The line of a scan -/

/-- The scan looks at the flag at a visit in this position, counted from one. -/
def LooksAt (position : Nat) (v : Visit) : Prop :=
  position % checkInterval = 0 ∨ (CallSite.ofVisit? v).isSome = true

/-- The ticks of the visits that are still to come when some nodes have been completed, with one event
behind each tree. -/
inductive IsScan : Nat → List Visit → List Tick → Prop where
  | done (k : Nat) : IsScan k [] []
  | visit {k : Nat} {v : Visit} {vs : List Visit} {body ts : List Tick}
      (hbody : ∀ t ∈ body, t.settles = false) (hlooks : .check ∈ body ↔ LooksAt (k + 1) v)
      (h : IsScan (k + 1) vs ts) : IsScan k (v :: vs) (body ++ .node :: ts)
  | scanned {k : Nat} {vs : List Visit} {ts : List Tick} (label : String) (found : Nat)
      (h : IsScan k vs ts) : IsScan k vs (.event (.treeScanned label found) :: ts)

/-- The ticks of one visit end with its node.  In front of it there is a check exactly if the scan
looks at the flag there, for one of its two reasons or for both. -/
theorem visitTicks_eq (found : Findings) (v : Visit) : ∃ body,
    found.visitTicks v = body ++ [.node] ∧ (∀ t ∈ body, t.settles = false) ∧
      (.check ∈ body ↔ LooksAt (found.visited + 1) v) := by
  unfold visitTicks LooksAt
  -- Only whether the check of the interval is due matters, not at which node.
  generalize hdue : (found.visited + 1) % checkInterval = r
  cases CallSite.ofVisit? v with
  | none =>
    by_cases hr : r = 0
    · exact ⟨[.check], by simp [hr], by decide, by simp [hr]⟩
    · exact ⟨[], by simp [hr], by decide, by simp [hr]⟩
  | some site =>
    by_cases hr : r = 0
    · refine ⟨[.check, .event (.callSiteMatched site.method), .check], by simp [hr], ?_, by simp [hr]⟩
      simp [Tick.settles]
    · refine ⟨[.event (.callSiteMatched site.method), .check], by simp [hr], ?_, by simp [hr]⟩
      simp [Tick.settles]

/-- The visits of one walk, in front of a line for the rest of the scan.  The induction is over the
visits; the number of completed nodes goes up along it. -/
theorem isScan_visitsTicks (vs : List Visit) : ∀ (found : Findings) {rest : List Visit}
    {ts : List Tick}, IsScan (found.withVisits vs).visited rest ts →
    IsScan found.visited (vs ++ rest) (found.visitsTicks vs ++ ts) := by
  induction vs with
  | nil => exact fun _ _ _ h => h
  | cons v vs ih =>
    intro found rest ts h
    obtain ⟨body, hticks, hbody, hlooks⟩ := found.visitTicks_eq v
    have hrest := ih (found.withVisit v) h
    rw [visitsTicks, hticks, List.append_assoc, List.append_assoc]
    exact .visit hbody hlooks hrest

/-- The visits of the trees, tree after tree. -/
def visitsOf (trees : List Tree) : List Visit :=
  trees.flatMap fun t => (Walk.start t.root).visits

/-- **The ticks of a scan belong to its visits.** The positions go on from tree to tree, so a tree
need not begin with a check. -/
theorem isScan_treesTicks (trees : List Tree) : ∀ found : Findings,
    IsScan found.visited (visitsOf trees) (found.treesTicks trees) := by
  induction trees with
  | nil => exact fun found => .done found.visited
  | cons tree trees ih =>
    intro found
    rw [treesTicks, treeTicks, List.append_assoc]
    exact isScan_visitsTicks _ found (.scanned tree.label _ (ih (found.withTree tree)))

/-! ## Moments -/

/-- **Between two nodes the line falls apart**, and so do the visits: as many have been made as
nodes have been completed.  By induction over the line. -/
theorem IsScan.split {k : Nat} {vs : List Visit} {ts : List Tick} (h : IsScan k vs ts) :
    ∀ {before after : List Tick}, ts = before ++ after → Settled before →
      ∃ seen rest, vs = seen ++ rest ∧ before.count .node = seen.length ∧
        IsScan (k + seen.length) rest after := by
  induction h with
  | done k =>
    intro before after hts _
    obtain ⟨rfl, rfl⟩ := List.append_eq_nil_iff.mp hts.symm
    exact ⟨[], [], rfl, rfl, .done k⟩
  | @visit k v vs body ts hbody hlooks h ih =>
    intro before after hts hsettled
    -- The ticks of a visit cannot be parted: a cut that is settled lies before them or behind.
    rcases hsettled.before_or_behind hbody hts with rfl | ⟨late, rfl, hlate, hsettled⟩
    · rw [List.nil_append] at hts
      exact ⟨[], v :: vs, rfl, rfl, hts ▸ .visit hbody hlooks h⟩
    · obtain ⟨seen, rest, hvs, hcount, hrest⟩ := ih hlate hsettled
      have hposition : k + 1 + seen.length = k + (v :: seen).length := by
        rw [List.length_cons]
        omega
      refine ⟨v :: seen, rest, congrArg _ hvs, ?_, hposition ▸ hrest⟩
      rw [List.count_append, count_node_eq_zero hbody, List.count_cons_self, hcount,
        List.length_cons]
      omega
  | @scanned k vs ts label found h ih =>
    intro before after hts hsettled
    cases before with
    | nil =>
      rw [List.nil_append] at hts
      exact ⟨[], vs, rfl, rfl, hts ▸ .scanned label found h⟩
    | cons t before =>
      rw [List.cons_append] at hts
      obtain ⟨hevent, htail⟩ := List.cons.inj hts
      obtain ⟨seen, rest, hvs, hcount, hrest⟩ := ih htail (hsettled.of_append [t])
      rw [← hevent, List.count_cons_of_ne (by simp)]
      exact ⟨seen, rest, hvs, hcount, hrest⟩

/-- There is a moment between any two nodes, and one in front of all of them.  At each of them a
flag may go up, so the statement about promptness is not about moments that never come. -/
theorem IsScan.exists_moment {k : Nat} {vs : List Visit} {ts : List Tick} (h : IsScan k vs ts) :
    ∀ j ≤ vs.length, ∃ before after, ts = before ++ after ∧ Settled before ∧
      before.count .node = j := by
  induction h with
  | done k => exact fun j hj => ⟨[], [], rfl, settled_nil, (Nat.le_zero.mp hj).symm⟩
  | @visit k v vs body ts hbody hlooks h ih =>
    intro j hj
    cases j with
    | zero => exact ⟨[], _, rfl, settled_nil, rfl⟩
    | succ j =>
      -- The moment is one of the rest, moved behind the ticks of this visit.
      obtain ⟨before, after, hts, hsettled, hcount⟩ := ih j (Nat.le_of_succ_le_succ hj)
      refine ⟨body ++ [.node] ++ before, after, ?_, (settled_concat body rfl).append hsettled, ?_⟩
      · rw [hts, List.append_assoc, List.append_assoc, List.singleton_append]
      · rw [List.count_append, List.count_append, count_node_eq_zero hbody, hcount,
          List.count_singleton_self]
        omega
  | @scanned k vs ts label found h ih =>
    intro j hj
    obtain ⟨before, after, hts, hsettled, hcount⟩ := ih j hj
    exact ⟨.event (.treeScanned label found) :: before, after, congrArg _ hts,
      (settled_concat [] rfl).append hsettled, hcount⟩

/-- A visit without a check is passed over. -/
theorem check_mem_visit_iff {body : List Tick} (h : .check ∉ body) (ts : List Tick) :
    .check ∈ body ++ .node :: ts ↔ .check ∈ ts := by
  rw [List.mem_append, List.mem_cons]
  exact ⟨fun hmem => (hmem.resolve_left h).resolve_left nofun, fun hmem => Or.inr (Or.inr hmem)⟩

/-- And its node is completed, before the first check behind it. -/
theorem count_node_visit {body : List Tick} (hcheck : .check ∉ body)
    (hbody : ∀ t ∈ body, t.settles = false) (ts : List Tick) :
    ((body ++ .node :: ts).takeWhile (· ≠ .check)).count .node =
      (ts.takeWhile (· ≠ .check)).count .node + 1 := by
  have hpassed : ∀ t ∈ body, decide (t ≠ .check) = true := by
    intro t ht
    rw [decide_eq_true_eq]
    exact fun h => hcheck (h ▸ ht)
  rw [List.takeWhile_append_of_pos hpassed, List.takeWhile_cons_of_pos (by decide),
    List.count_append, List.count_cons_self, count_node_eq_zero hbody]
  omega

/-- **The first check is inside the first visit at which the scan looks at the flag.** The nodes
that are completed up to it are those of the visits in front, none of which has a check. -/
theorem IsScan.first_check {k : Nat} {vs : List Visit} {ts : List Tick} (h : IsScan k vs ts) :
    (.check ∉ ts ∧ ∀ i v, vs[i]? = some v → ¬ LooksAt (k + i + 1) v) ∨
      ∃ i v, vs[i]? = some v ∧ LooksAt (k + i + 1) v ∧
        (∀ l u, vs[l]? = some u → LooksAt (k + l + 1) u → i ≤ l) ∧
        .check ∈ ts ∧ (ts.takeWhile (· ≠ .check)).count .node = i := by
  induction h with
  | done k => exact Or.inl ⟨List.not_mem_nil, fun i v hv => nomatch hv⟩
  | @visit k v vs body ts hbody hlooks h ih =>
    -- The first visit that looks is this one, and no node is complete before its check; or it is
    -- the first one of the rest, one node later.
    by_cases hlook : LooksAt (k + 1) v
    · refine Or.inr ⟨0, v, rfl, hlook, fun l u _ _ => Nat.zero_le l, ?_, ?_⟩
      · exact List.mem_append_left _ (hlooks.mpr hlook)
      · have htake : (body ++ .node :: ts).takeWhile (· ≠ .check) = body.takeWhile (· ≠ .check) :=
          Generation.takeWhile_append_of_mem_check (hlooks.mpr hlook) _
        rw [htake]
        exact count_node_eq_zero fun t ht => hbody t ((List.takeWhile_sublist _).subset ht)
    · have hcheck : Tick.check ∉ body := fun hmem => hlook (hlooks.mp hmem)
      have hmem := check_mem_visit_iff hcheck ts
      have hposition (i : Nat) : k + (i + 1) + 1 = k + 1 + i + 1 := by omega
      rcases ih with ⟨hnone, hlater⟩ | ⟨i, u, hu, hlooku, hfirst, hsome, hcount⟩
      · refine Or.inl ⟨fun h => hnone (hmem.mp h), fun i u hu => ?_⟩
        cases i with
        | zero => exact Option.some.inj hu ▸ hlook
        | succ i =>
          rw [hposition]
          exact hlater i u hu
      · refine Or.inr ⟨i + 1, u, hu, (hposition i).symm ▸ hlooku, fun l x hx hlookx => ?_,
          hmem.mpr hsome, ?_⟩
        · cases l with
          | zero => exact absurd (Option.some.inj hx ▸ hlookx) hlook
          | succ l =>
            rw [hposition] at hlookx
            exact Nat.succ_le_succ (hfirst l x hx hlookx)
        · rw [count_node_visit hcheck hbody, hcount]
  | @scanned k vs ts label found h ih =>
    have hmem : Tick.check ∈ .event (.treeScanned label found) :: ts ↔ Tick.check ∈ ts := by
      rw [List.mem_cons]
      exact ⟨fun h => h.resolve_left nofun, Or.inr⟩
    have htake : (Tick.event (.treeScanned label found) :: ts).takeWhile (· ≠ .check) =
        .event (.treeScanned label found) :: ts.takeWhile (· ≠ .check) :=
      List.takeWhile_cons_of_pos (by simp)
    rcases ih with ⟨hnone, hlater⟩ | ⟨i, u, hu, hlooku, hfirst, hsome, hcount⟩
    · exact Or.inl ⟨fun h => hnone (hmem.mp h), hlater⟩
    · refine Or.inr ⟨i, u, hu, hlooku, hfirst, hmem.mpr hsome, ?_⟩
      rw [htake, List.count_cons_of_ne (by simp), hcount]

/-! ## Positions -/

variable (trees : List Tree)

/-- The places of the nodes in all trees, in the order of a scan. -/
def placesOf : List Place :=
  trees.flatMap fun t => t.root.places []

/-- At this position, counted from one over all trees, a scan looks at the flag: a registration stands
there, or it is a multiple of 256. -/
def ChecksAt (position : Nat) : Prop :=
  ∃ i p, position = i + 1 ∧ (placesOf trees)[i]? = some p ∧
    (position % 256 = 0 ∨ ∃ method route handler, IsRegistration p.node method route handler)

/-- The visits of a scan are the places of the nodes, so that positions can be told without a walk. -/
theorem visitsOf_eq : visitsOf trees = (placesOf trees).map (Place.visitIn none) := by
  rw [visitsOf, placesOf, List.map_flatMap]
  exact List.flatMap_congr fun t _ => Walk.visits_start_eq_map_places t.root

/-- There are as many places as nodes in all trees together. -/
theorem length_placesOf : (placesOf trees).length = (trees.map fun t => t.root.size).sum := by
  rw [placesOf, List.length_flatMap]
  simp only [Node.length_places]

/-- A scan looks at the flag at multiples of 256 and at registrations, and whether a node is one
does not depend on the scope. -/
theorem looksAt_visitIn (position : Nat) (p : Place) : LooksAt position (p.visitIn none) ↔
    position % 256 = 0 ∨ ∃ method route handler, IsRegistration p.node method route handler := by
  have hregistration : (CallSite.ofVisit? (p.visitIn none)).isSome = true ↔
      ∃ method route handler, IsRegistration p.node method route handler := by
    rw [Option.isSome_iff_exists]
    constructor
    · rintro ⟨site, hsite⟩
      obtain ⟨route, handler, h, -⟩ := CallSite.ofVisit?_eq_some_iff.mp hsite
      exact ⟨site.method, route, handler, h⟩
    · rintro ⟨method, route, handler, h⟩
      exact ⟨_, CallSite.ofVisit?_of_isRegistration h _⟩
  rw [LooksAt, hregistration]
  rfl

/-- What is said of places, said of visits; positions are counted from one, lists from zero. -/
theorem checksAt_iff {trees : List Tree} {position : Nat} : ChecksAt trees position ↔
    ∃ i v, position = i + 1 ∧ (visitsOf trees)[i]? = some v ∧ LooksAt position v := by
  rw [visitsOf_eq]
  constructor
  · rintro ⟨i, p, hi, hp, hlooks⟩
    refine ⟨i, p.visitIn none, hi, ?_, (looksAt_visitIn position p).mpr hlooks⟩
    rw [List.getElem?_map, hp]
    rfl
  · rintro ⟨i, v, hi, hv, hlooks⟩
    rw [List.getElem?_map] at hv
    obtain ⟨p, hp, rfl⟩ := Option.map_eq_some_iff.mp hv
    exact ⟨i, p, hi, hp, (looksAt_visitIn position p).mp hlooks⟩

/-- There are as many positions as nodes. -/
theorem ChecksAt.le {trees : List Tree} {position : Nat} (h : ChecksAt trees position) :
    0 < position ∧ position ≤ (trees.map fun t => t.root.size).sum := by
  obtain ⟨i, p, rfl, hp, -⟩ := h
  rw [← length_placesOf]
  have hlength := (List.getElem?_eq_some_iff.mp hp).1
  exact ⟨Nat.succ_pos i, hlength⟩

/-- A multiple of 256 is checked, wherever there is a node, be it a registration or not. -/
theorem checksAt_of_dvd {trees : List Tree} {position : Nat} (hpos : 0 < position)
    (hle : position ≤ (trees.map fun t => t.root.size).sum) (hdue : position % 256 = 0) :
    ChecksAt trees position := by
  rw [← length_placesOf] at hle
  have hlength : position - 1 < (placesOf trees).length := by omega
  exact ⟨position - 1, (placesOf trees)[position - 1], by omega, List.getElem?_eq_getElem hlength,
    Or.inl hdue⟩

/-- **The next check is at most 256 nodes away**: the next multiple of 256 is, and if the trees end
before it, so does every check. -/
theorem le_add_of_isLeast {trees : List Tree} {j k : Nat}
    (h : IsLeast {k | j < k ∧ ChecksAt trees k} k) : k ≤ j + 256 := by
  obtain ⟨⟨-, hcheck⟩, hleast⟩ := h
  -- the next multiple is checked, if there are so many nodes at all
  have hnext : j < (j / 256 + 1) * 256 ∧ (j / 256 + 1) * 256 ≤ j + 256 := by omega
  by_cases hnodes : (j / 256 + 1) * 256 ≤ (trees.map fun t => t.root.size).sum
  · have hmultiple : ChecksAt trees ((j / 256 + 1) * 256) :=
      checksAt_of_dvd (by omega) hnodes (Nat.mul_mod_left _ _)
    have hle := hleast ⟨hnext.1, hmultiple⟩
    omega
  · have hle := hcheck.le.2
    omega

/-! ## Scans -/

/-- **A scan that is cancelled between two nodes goes on to the next check**, if there is one.  It
fails there, with all nodes before it completed; otherwise it does not notice and finds everything. -/
theorem gather_of_cancelsAfter {w : Watch} {before after : List Tick}
    (hticks : treesTicks {} trees = before ++ after) (hsettled : Settled before)
    (hw : w.CancelsAfter before) :
    (∃ k done, IsLeast {k | before.count .node < k ∧ ChecksAt trees k} k ∧
      done <+: treesTicks {} trees ∧ done.count .node + 1 = k ∧
      (gather trees).run w = (.error .cancelled, w.after done)) ∨
    (∀ k, ChecksAt trees k → k ≤ before.count .node) ∧
      (gather trees).run w = (.ok (trees.foldl withTree {}), w.after (treesTicks {} trees)) := by
  have hdoes := gather_does trees
  rw [hticks] at hdoes
  have hrun := hdoes.run_of_cancelsAfter hw
  obtain ⟨seen, rest, hvisits, hcount, hrest⟩ := (isScan_treesTicks trees {}).split hticks hsettled
  have hstart : (0 : Nat) + seen.length = seen.length := Nat.zero_add _
  rw [show ({} : Findings).visited = 0 from rfl, hstart] at hrest
  have hlater (i : Nat) : (visitsOf trees)[seen.length + i]? = rest[i]? := by
    rw [hvisits, List.getElem?_append_right (Nat.le_add_right _ _), Nat.add_sub_cancel_left]
  rw [hcount]
  -- What is left of the scan is a scan again, counted on from the nodes that are complete.
  rcases hrest.first_check with ⟨hnone, hunchecked⟩ | ⟨i, v, hv, hlooks, hfirst, hsome, hnodes⟩
  · right
    rw [if_neg hnone, ← hticks] at hrun
    refine ⟨fun k hk => ?_, hrun⟩
    obtain ⟨l, u, rfl, hu, hlooks⟩ := checksAt_iff.mp hk
    by_contra hlt
    have hl : seen.length + (l - seen.length) = l := by omega
    rw [← hl, hlater] at hu
    rw [← hl] at hlooks
    exact hunchecked _ u hu hlooks
  · left
    rw [if_pos hsome] at hrun
    refine ⟨seen.length + i + 1, _, ⟨⟨by omega, ?_⟩, ?_⟩, ?_, ?_, hrun⟩
    · exact checksAt_iff.mpr ⟨seen.length + i, v, rfl, (hlater i).trans hv, hlooks⟩
    · -- A node that checks and is not complete yet lies in the rest, where none is before the
      -- first.
      rintro k ⟨hk, hcheck⟩
      obtain ⟨l, u, rfl, hu, hlooku⟩ := checksAt_iff.mp hcheck
      have hl : seen.length + (l - seen.length) = l := by omega
      rw [← hl, hlater] at hu
      rw [← hl] at hlooku
      have hle := hfirst _ u hu hlooku
      omega
    · rw [hticks, List.prefix_append_right_inj]
      exact List.takeWhile_prefix _
    · rw [List.count_append, hcount, hnodes]

/-- A scan holds a check exactly if it looks at the flag somewhere. -/
theorem check_mem_treesTicks_iff : .check ∈ treesTicks {} trees ↔ ∃ k, ChecksAt trees k := by
  rcases (isScan_treesTicks trees {}).first_check with
    ⟨hnone, hunchecked⟩ | ⟨i, v, hv, hlooks, -, hsome, -⟩
  · refine ⟨fun h => absurd h hnone, fun ⟨k, hk⟩ => ?_⟩
    obtain ⟨i, v, rfl, hv, hlooks⟩ := checksAt_iff.mp hk
    have hposition : ({} : Findings).visited + i + 1 = i + 1 := by
      rw [show ({} : Findings).visited = 0 from rfl, Nat.zero_add]
    exact absurd (hposition.symm ▸ hlooks) (hunchecked i v hv)
  · exact ⟨fun _ => ⟨_, checksAt_iff.mpr ⟨_, v, rfl, (Nat.zero_add i).symm ▸ hv, hlooks⟩⟩,
      fun _ => hsome⟩

end Findings

namespace Generation

open Pass Findings

variable (progress : Bool) (s : Settings) (trees : List Tree)

/-! ## Passes that were cancelled before they began -/

/-- Trees that a cancelled scan gets through: they have fewer than 256 nodes, and no registration. -/
def IsUnnoticed : Prop :=
  (trees.map fun t => t.root.size).sum < 256 ∧ ∀ t ∈ trees, IsBlank t

/-- Trees are got through exactly if there is no position at which the scan looks: fewer than 256
nodes, and no call site among them. -/
theorem isUnnoticed_iff {trees : List Tree} : IsUnnoticed trees ↔ ¬ ∃ k, ChecksAt trees k := by
  constructor
  · rintro ⟨hfew, hblank⟩ ⟨k, hk⟩
    have hrange := hk.le
    obtain ⟨i, p, -, hp, hdue | ⟨method, route, handler, h⟩⟩ := hk
    · omega
    · obtain ⟨t, ht, hplace⟩ := List.mem_flatMap.mp (List.mem_of_getElem? hp)
      exact hblank t ht p hplace method route handler h
  · intro hnone
    -- With 256 nodes or more, node 256 would check.
    refine ⟨Nat.lt_of_not_le fun hmany => hnone ⟨256, checksAt_of_dvd (by decide) hmany rfl⟩, ?_⟩
    intro t ht p hp method route handler h
    have hmem : p ∈ placesOf trees := List.mem_flatMap.mpr ⟨t, ht, hp⟩
    obtain ⟨i, hi⟩ := List.mem_iff_getElem?.mp hmem
    exact hnone ⟨i + 1, i, p, rfl, hi, Or.inr ⟨method, route, handler, h⟩⟩

/-- Such trees have no call sites, since every registration is a place to look. -/
theorem callSites_of_isUnnoticed {trees : List Tree} (h : IsUnnoticed trees) :
    (foundIn trees).callSites = [] := by
  rw [foundIn_eq]
  exact List.flatMap_eq_nil_iff.mpr fun t ht => callSites_of_isBlank (h.2 t ht)

/-- A scan phase holds a check exactly if the scan looks at the flag. -/
theorem check_mem_scanTicks_iff : .check ∈ scanTicks progress trees ↔ ¬ IsUnnoticed trees := by
  rw [isUnnoticed_iff, not_not, ← check_mem_treesTicks_iff, scanTicks, phaseTicks, List.mem_append,
    List.mem_append]
  constructor
  · rintro (h | h | h)
    · exact absurd h (check_not_mem_note progress _)
    · exact h
    · exact absurd h (check_not_mem_note progress _)
  · exact fun h => Or.inr (Or.inl h)

/-- Where there is no call site, extracting them does nothing but its events, which no flag can
stop. -/
theorem check_not_mem_extractTicks (h : (foundIn trees).callSites = []) :
    .check ∉ extractTicks progress s trees := by
  rw [extractTicks, h, phaseTicks, List.mem_append, List.mem_append]
  rintro (h | h | h)
  · exact check_not_mem_note progress _ h
  · cases List.mem_singleton.mp h
  · exact check_not_mem_note progress _ h

/-- A pass has a check exactly if it is switched on and its scan has one: without call sites nothing
comes behind the scan that would look. -/
theorem check_mem_ticksOf_iff :
    .check ∈ ticksOf progress s trees ↔ s.enabled = true ∧ ¬ IsUnnoticed trees := by
  have hending := check_not_mem_endingTicks progress (outcomeOf s trees)
  rw [ticksOf, List.mem_append, or_iff_left hending, phasesTicks]
  cases henabled : s.enabled with
  | false =>
    rw [if_neg Bool.false_ne_true, List.mem_singleton]
    refine ⟨fun h => ?_, fun h => absurd h.1 Bool.false_ne_true⟩
    cases h
  | true =>
    rw [if_pos rfl, List.mem_append, or_iff_right (check_not_mem_note progress _), List.mem_append,
      check_mem_scanTicks_iff]
    -- Extracting checks once for each call site, so it adds no check when the scan has none.
    constructor
    · rintro (h | h)
      · exact ⟨rfl, h⟩
      · refine ⟨rfl, fun hunnoticed => ?_⟩
        rw [callSites_of_isUnnoticed hunnoticed, List.isEmpty_nil, if_pos rfl] at h
        exact List.not_mem_nil h
    · exact fun h => Or.inl h.2

/-- What a pass and an inspection give under a watch whose flag is up. -/
structure IsCutShort (w : Watch) : Prop where
  disabled : s.enabled = false →
    ((generate progress s trees).run w).1 = .ok (.skipped .disabled)
  unnoticed : s.enabled = true → IsUnnoticed trees →
    ((generate progress s trees).run w).1 = .ok (.skipped .noCandidates)
  noticed : s.enabled = true → ¬ IsUnnoticed trees →
    ((generate progress s trees).run w).1 = .error .cancelled
  inspect_unnoticed : IsUnnoticed trees → ((inspect progress s trees).run w).1 =
    .ok ⟨0, (trees.map fun t => t.root.size).sum, [], []⟩
  inspect_noticed : ¬ IsUnnoticed trees →
    ((inspect progress s trees).run w).1 = .error .cancelled

/-- **A pass that was cancelled before it began fails in its scan**, unless the scan never looks.
An inspection does the same, whatever the switch says. -/
theorem isCutShort_of_cancelled {w : Watch} (hw : w.cancelled = true) :
    IsCutShort progress s trees w := by
  -- A watch that is cancelled from the start cuts at the first check, if there is one.
  have hgenerate : ((generate progress s trees).run w).1 =
      if .check ∈ ticksOf progress s trees then .error .cancelled
      else .ok (outcomeOf s trees) := by
    rw [generate_of_cancelsAfter (List.nil_append _).symm (Watch.cancelsAfter_nil hw)]
    split
    · rfl
    · rfl
  have hinspect := (inspect_does s trees progress).run_of_cancelled hw
  have hcheck := check_mem_ticksOf_iff progress s trees
  refine ⟨fun hdisabled => ?_, fun henabled h => ?_, fun henabled h => ?_, fun h => ?_, fun h => ?_⟩
  · have hswitch : ¬ s.enabled = true := by rw [hdisabled]; decide
    rw [hgenerate, if_neg fun h => hswitch (hcheck.mp h).1, outcomeOf_eq, if_pos hdisabled]
  · have hswitch : ¬ s.enabled = false := by rw [henabled]; decide
    have hnone : (inspectionOf s trees).candidates = 0 :=
      List.length_eq_zero_iff.mpr (callSites_of_isUnnoticed h)
    rw [hgenerate, if_neg fun hmem => (hcheck.mp hmem).2 h, outcomeOf_eq, if_neg hswitch, if_pos hnone]
  · rw [hgenerate, if_pos (hcheck.mpr ⟨henabled, h⟩)]
  · have hnone : .check ∉ scanTicks progress trees ++ extractTicks progress s trees := by
      rw [List.mem_append, check_mem_scanTicks_iff]
      rintro (hnoticed | hextract)
      · exact hnoticed h
      · exact check_not_mem_extractTicks progress s trees (callSites_of_isUnnoticed h) hextract
    rw [hinspect, if_neg hnone, inspectionOf_of_blank s h.2]
  · rw [hinspect, if_pos (List.mem_append_left _ ((check_mem_scanTicks_iff progress trees).mpr h))]

/-! ## The whole of it -/

/-- What a scan does when it is cancelled with `j` nodes completed and none under way. -/
structure IsNoticedBehind (found : Findings) (ticks : List Tick) (w : Watch) (j : Nat) : Prop where
  cancelled_iff : ((gather trees).run w).1 = .error .cancelled ↔ ∃ k, j < k ∧ ChecksAt trees k
  /-- The node at which the flag is looked at next is not completed any more. -/
  next : ∀ k, IsLeast {k | j < k ∧ ChecksAt trees k} k →
    k ≤ j + 256 ∧ ∃ done, done <+: ticks ∧ done.count .node + 1 = k ∧
      (gather trees).run w = (.error .cancelled, w.after done)
  unnoticed : (∀ k, j < k → ¬ ChecksAt trees k) →
    (gather trees).run w = (.ok found, w.after ticks)

/-- The two outcomes of a scan that is cancelled, put together for a moment with so many nodes
completed. -/
theorem isNoticedBehind_of_cancelsAfter {w : Watch} {before after : List Tick}
    (hticks : treesTicks {} trees = before ++ after) (hsettled : Settled before)
    (hw : w.CancelsAfter before) :
    IsNoticedBehind trees (foundIn trees) (treesTicks {} trees) w (before.count .node) := by
  rcases gather_of_cancelsAfter trees hticks hsettled hw with
    ⟨k, done, hnext, hdone, hcount, hrun⟩ | ⟨hnone, hrun⟩
  · refine ⟨⟨fun _ => ⟨k, hnext.1⟩, fun _ => congrArg Prod.fst hrun⟩, fun l hl => ?_, fun h => ?_⟩
    · obtain rfl := hl.unique hnext
      exact ⟨le_add_of_isLeast hnext, done, hdone, hcount, hrun⟩
    · exact absurd hnext.1.2 (h k hnext.1.1)
  · refine ⟨⟨fun h => ?_, fun ⟨k, hlt, hk⟩ => ?_⟩, fun k hk => ?_, fun _ => hrun⟩
    · rw [hrun] at h
      nomatch h
    · exact absurd (hnone k hk) (Nat.not_le_of_lt hlt)
    · exact absurd (hnone k hk.1.2) (Nat.not_le_of_lt hk.1.1)

/-- **Cancellation is noticed within 256 nodes, across trees, and for good.**

A scan can be cancelled between any two nodes.  It then fails exactly if it looks at the flag at some
later node, over the rest of this tree and all trees behind it, and completes no node from the first of
these on, which is at most 256 nodes away; otherwise it finds what it would have found.

Tokens share a flag with their clones, whatever else is done with tokens.  Once one handle of a flag
has been used to cancel, every check of every other one fails, and a pass that is started with it does
not get past its scan, unless it is switched off or has fewer than 256 nodes and no registration. -/
theorem cancellation_noticed_promptly (trees : List Tree) :
    (∃ (found : Findings) (ticks : List Tick),
      (∀ w : Watch, (w.after ticks).cancelled = false →
        (gather trees).run w = (.ok found, w.after ticks)) ∧
      (∀ j ≤ (trees.map fun t => t.root.size).sum, ∃ (w : Watch) (before after : List Tick),
        ticks = before ++ after ∧ Settled before ∧ before.count .node = j ∧
          w.CancelsAfter before) ∧
      ∀ (w : Watch) (before after : List Tick), ticks = before ++ after → Settled before →
        w.CancelsAfter before → IsNoticedBehind trees found ticks w (before.count .node)) ∧
    (∀ (uses : List Tokens.Use) (a : Nat), a < (Tokens.start.applyAll uses).slots.length →
      (Tokens.start.applyAll uses).Shares a a) ∧
    ∀ (t : Tokens) (a b : Nat), t.Shares a b →
      (t.clone b).Shares a t.slots.length ∧
      ∀ uses : List Tokens.Use, (t.applyAll uses).Shares a b ∧
        ((t.cancel b).applyAll uses).check a = .error .cancelled ∧
        ∀ w : Watch, w.cancelled = ((t.cancel b).applyAll uses).isCancelled a →
          ∀ (progress : Bool) (s : Settings), IsCutShort progress s trees w := by
  refine ⟨⟨foundIn trees, treesTicks {} trees, fun w hw => (gather_does trees).run_of_live hw,
    fun j hj => ?_, fun w before after => isNoticedBehind_of_cancelsAfter trees⟩,
    fun uses a ha => ?_, fun t a b h => ⟨h.clone, fun uses => ⟨h.applyAll uses, ?_, ?_⟩⟩⟩
  · have hvisits : (visitsOf trees).length = (trees.map fun t => t.root.size).sum := by
      rw [visitsOf_eq, List.length_map, length_placesOf]
    obtain ⟨before, after, hticks, hsettled, hcount⟩ :=
      (isScan_treesTicks trees {}).exists_moment j (hvisits ▸ hj)
    obtain ⟨w, hw⟩ := Watch.exists_cancelsAfter before
    exact ⟨w, before, after, hticks, hsettled, hcount, hw⟩
  · obtain ⟨flag, hnames⟩ := Tokens.isSound_start_applyAll uses a ha
    exact ⟨flag, hnames, hnames⟩
  · rw [Tokens.check, if_pos (h.isCancelled uses)]
  · intro w hw progress s
    exact isCutShort_of_cancelled progress s trees (hw.trans (h.isCancelled uses))

end Generation

end RouteIndex
